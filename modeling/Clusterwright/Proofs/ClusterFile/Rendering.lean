import Clusterwright.Descriptor
import Clusterwright.Proofs.ClusterFile.BareMetal
import Clusterwright.Proofs.ClusterFile.Hosted

/-! # Rendering — every cluster has its files

    Templates are strict: a name or an attribute that is not there, an unknown filter, or a value
    that a filter does not take ends the rendering.  For each platform the pieces of its template
    have been gone through, branches and loops included, with whatever can be configured; here the
    platforms are put together, and nothing is left that could go wrong.  Nothing is asked of a
    configuration either: it need not have passed its checks. -/

namespace Clusterwright

open ClusterFile

/-- The blocks of the file of a cluster. -/
def Platform.blocks (ctx : RenderContext) : Platform → List Block
  | .packet c => PacketFile.blocks c ctx
  | .bareMetal c => BareMetalFile.blocks c ctx

theorem Platform.render_eq (p : Platform) (ctx : RenderContext) :
    p.render ctx = .ok (fileText (p.blocks ctx)) := by
  cases p with
  | packet c => exact PacketFile.render_eq c ctx
  | bareMetal c => exact BareMetalFile.render_eq c ctx

/-- **RENDERING NEVER FAILS**: whatever is configured for the platform, the network and the image,
    the template of the platform can be filled in, and so every cluster has its files. -/
theorem rendering_never_fails :
    (∀ (p : Platform) (ctx : RenderContext), p.render ctx = .ok (fileText (p.blocks ctx))) ∧
      ∀ d : Descriptor,
        d.render = .ok ⟨d.backend.render, fileText (d.platform.blocks d.renderContext)⟩ := by
  refine ⟨Platform.render_eq, fun d => ?_⟩
  rw [Descriptor.render, Platform.render_eq]
  rfl

end Clusterwright
