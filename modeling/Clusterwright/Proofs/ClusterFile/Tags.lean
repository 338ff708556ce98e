import Clusterwright.Proofs.ClusterFile.Hosted
import Clusterwright.Proofs.SortedMap
import Mathlib.Data.List.Sort

/-! # Tags — what the machines of a cluster are tagged with

    The configured tags are put on top of the one for the version, and what is written for each of
    them is sorted.  Keys and values may have colons in them and one key may begin with another,
    so that the order of what is written says nothing about the order of the keys; two tags may
    even be written alike.  Nothing here depends on that.

    * `sorted_eq`: texts are sorted as the library's insertion sort does it, so that a sorted list
      is decided by what it lists (`sorted_eq_of_perm`);
    * `lookup_withVersion`: what is found under a key before anything is written;
    * `withVersion_perm`: the same tags as in a map into which the version is put first;
    * `modules_show_tags`: every module of a file that is about machines shows that list. -/

namespace Clusterwright

/-! ## Sorting -/

namespace Tags

theorem insertSorted_eq (s : String) (texts : List String) :
    insertSorted s texts = texts.orderedInsert (· ≤ ·) s := by
  induction texts with
  | nil => rfl
  | cons t rest ih => rw [insertSorted, List.orderedInsert_cons, ih]

theorem sorted_eq (texts : List String) : sorted texts = texts.insertionSort (· ≤ ·) := by
  induction texts with
  | nil => rfl
  | cons s rest ih => rw [sorted, ih, insertSorted_eq, List.insertionSort_cons]

theorem sorted_ascending (texts : List String) : (sorted texts).Pairwise (· ≤ ·) := by
  rw [sorted_eq]
  exact List.pairwise_insertionSort (· ≤ ·) texts

theorem sorted_perm (texts : List String) : (sorted texts).Perm texts := by
  rw [sorted_eq]
  exact List.perm_insertionSort (· ≤ ·) texts

/-- There is one way only to list the same texts in ascending order. -/
theorem sorted_eq_of_perm {texts others : List String} (h : texts.Perm others) :
    sorted texts = sorted others := by
  -- texts that stand both before and after each other are the same text
  have hperm : (sorted texts).Perm (sorted others) :=
    (sorted_perm texts).trans (h.trans (sorted_perm others).symm)
  exact hperm.eq_of_pairwise (fun _ _ _ _ hab hba => String.le_antisymm hab hba)
    (sorted_ascending texts) (sorted_ascending others)

theorem flatten_eq_of_perm {tags others : List (String × String)} (h : tags.Perm others) :
    flatten tags = flatten others := sorted_eq_of_perm (h.map written)

/-! ## The version among the tags -/

variable {tags : SortedMap String} {inserted : List (String × String)}

/-- The version is what is found under its key if nothing is configured there. -/
theorem lookup_withVersion (tags : SortedMap String) (key : String) :
    (withVersion tags).lookup key =
      (tags.find? key).or ([(versionKey, version)].lookup key) := by
  by_cases hversion : tags.contains versionKey
  case pos =>
    rw [withVersion, if_pos hversion]
    show tags.find? key = _
    cases hfound : tags.find? key with
    | some value => rfl
    | none =>
        have hkey : key ≠ versionKey := by
          rintro rfl
          rw [SortedMap.contains, hfound] at hversion
          exact absurd hversion Bool.false_ne_true
        rw [Option.none_or, List.lookup_cons, beq_false_of_ne hkey]
        rfl
  case neg =>
    have hnone : tags.find? versionKey = none := by
      rwa [SortedMap.contains, Option.not_isSome_iff_eq_none] at hversion
    rw [withVersion, if_neg hversion, List.lookup_cons, List.lookup_cons]
    by_cases hkey : key = versionKey
    · rw [hkey, hnone, beq_self_eq_true]
      rfl
    · rw [beq_false_of_ne hkey]
      exact (Option.or_none).symm

theorem nodup_withVersion (tags : SortedMap String) :
    ((withVersion tags).map Prod.fst).Nodup := by
  unfold withVersion
  split
  case isTrue => exact tags.keys_nodup
  case isFalse hversion =>
    rw [SortedMap.contains_iff_mem_keys] at hversion
    exact List.nodup_cons.mpr ⟨hversion, tags.keys_nodup⟩

/-- The configured tags are put on top of the version, whatever order they are put there in. -/
theorem withVersion_perm (h : SortedMap.ofList inserted = tags) :
    (withVersion tags).Perm (SortedMap.ofList ((versionKey, version) :: inserted)).entries := by
  refine SortedMap.perm_of_lookup (nodup_withVersion tags) (SortedMap.keys_nodup _) fun key => ?_
  show _ = SortedMap.find? _ key
  rw [lookup_withVersion, ← h, SortedMap.find?_ofList, SortedMap.find?_ofList, List.reverse_cons,
    List.lookup_append]

/-- What is written: the configured tags, and the version unless its key is configured. -/
theorem flatten_withVersion (tags : SortedMap String) : (flatten (withVersion tags)).Perm
    (tags.entries.map written ++
      if versionKey ∈ tags.keys then [] else [written (versionKey, version)]) := by
  refine (sorted_perm _).trans ?_
  unfold withVersion
  simp only [SortedMap.contains_iff_mem_keys]
  split
  case isTrue => rw [List.append_nil]
  case isFalse => exact (List.perm_append_singleton _ _).symm

end Tags

/-! ## In the file -/

namespace PacketFile

open ClusterFile

variable {c : PacketCluster} {ctx : RenderContext}

/-- The line that lists tags. -/
def tagLine (listed : List String) : String := setting "  tags        " (.ofTexts listed)

theorem tagLine_mem_sharedLines : tagLine c.tagList ∈ sharedLines c ctx := .tail _ (.head _)

/-- A module is that of the DNS records, or it is about machines and lists their tags. -/
theorem modules_show_tags {b : Block} (hb : b ∈ blocks c ctx) (hkind : b.kind = "module") :
    b.label = "dns" ∨ tagLine c.tagList ∈ b.body := by
  have hmanual : ∀ b ∈ manualBlocks c, b.kind ≠ "module" := by
    unfold manualBlocks
    split
    · exact List.forall_mem_singleton.mpr (by simp)
    · exact List.forall_mem_nil _
  have hzone : ∀ b ∈ zoneBlocks c c.dns.providers.route53, b.kind = "module" → b.label = "dns" := by
    cases c.dns.providers.route53 with
    | none => exact List.forall_mem_nil _
    | some z => simp [zoneBlocks]
  have hproviders : ∀ b ∈ fixedProviderBlocks c, b.kind ≠ "module" := by
    simp [fixedProviderBlocks, versioned]
  have houtputs : ∀ b ∈ outputBlocks "packet" c.clusterName, b.kind ≠ "module" := by
    simp [outputBlocks, chartBlock]
  -- only the first two groups of blocks are about machines
  simp only [blocks, List.mem_append, List.mem_cons, List.mem_map] at hb
  obtain (((((rfl | ⟨p, -, rfl⟩) | hb) | hb) | hb) | hb) := hb
  · right
    simp only [controllerBlock, List.mem_append, tagLine_mem_sharedLines, or_true, true_or]
  · right
    simp only [poolBlock, List.mem_append, tagLine_mem_sharedLines, or_true, true_or]
  · exact absurd hkind (hmanual b hb)
  · exact .inl (hzone b hb hkind)
  · exact absurd hkind (hproviders b hb)
  · exact absurd hkind (houtputs b hb)

/-- The file with a list of tags in the place of those of the cluster. -/
def renderTagged (c : PacketCluster) (ctx : RenderContext) (listed : List String) :
    Except Failure String :=
  Template.render "packet.tf" template <| (values c ctx).map fun v =>
    if v.1 = "tags" then (v.1, .ofTexts listed) else v

theorem renderTagged_tagList (c : PacketCluster) (ctx : RenderContext) :
    renderTagged c ctx c.tagList = render c ctx := rfl

section

variable {tags : SortedMap String} (h : Tags.flatten (Tags.withVersion tags) = c.tagList)
include h

theorem sharedLines_retagged (ctx : RenderContext) :
    sharedLines { c with tags := tags } ctx = sharedLines c ctx := by
  have htags : ({ c with tags := tags } : PacketCluster).tagList = c.tagList := h
  rw [sharedLines, htags]
  rfl

/-- What the machines are tagged with is in no block but for the list of tags. -/
theorem blocks_retagged (ctx : RenderContext) :
    blocks { c with tags := tags } ctx = blocks c ctx := by
  have hcontrollers : controllerBlock { c with tags := tags } ctx = controllerBlock c ctx := by
    rw [controllerBlock, sharedLines_retagged h ctx]
    rfl
  have hpool (p : WorkerPool × List String) :
      poolBlock { c with tags := tags } ctx p = poolBlock c ctx p := by
    rw [poolBlock, sharedLines_retagged h ctx]
    rfl
  rw [blocks, hcontrollers, funext hpool]
  rfl

theorem render_retagged (ctx : RenderContext) :
    render { c with tags := tags } ctx = render c ctx := by
  rw [render_eq, render_eq, blocks_retagged h ctx]

end

/-- How the tags of a cluster are merged with that of the version, and listed in its file. -/
structure TagsMerged (c : PacketCluster) (ctx : RenderContext) : Prop where
  ascending : c.tagList.Pairwise (· ≤ ·)
  /-- Each configured tag is listed once, and the version unless its key is configured. -/
  listed : c.tagList.Perm (c.tags.entries.map (fun tag => tag.1 ++ ":" ++ tag.2) ++
    if "lokoctl-version" ∈ c.tags.keys then [] else ["lokoctl-version:0.1.0"])
  rendered : render c ctx = .ok (fileText (blocks c ctx))
  shown : ∀ b ∈ blocks c ctx, b.kind = "module" →
    b.label = "dns" ∨ setting "  tags        " (.ofTexts c.tagList) ∈ b.body
  /-- The tags may be put into the map in any order, -/
  anyInsertion : ∀ inserted, inserted.Perm c.tags.entries → SortedMap.ofList inserted = c.tags
  /-- and once they are put on top of the version, gone through in any order. -/
  anyEnumeration : ∀ inserted, SortedMap.ofList inserted = c.tags → ∀ enumerated,
    enumerated.Perm (SortedMap.ofList (("lokoctl-version", "0.1.0") :: inserted)).entries →
    Tags.flatten enumerated = c.tagList ∧
      renderTagged c ctx (Tags.flatten enumerated) = render c ctx
  /-- Maps that are listed alike give the same file. -/
  onlyListed : ∀ tags, Tags.flatten (Tags.withVersion tags) = c.tagList →
    render { c with tags := tags } ctx = render c ctx

end PacketFile

open PacketFile

/-- **TAGS ARE MERGED WITHOUT LOSS, IN WHATEVER ORDER THEY COME.**  The list of tags that the
    modules about machines show is ascending; it has the configured tags, each once and with its
    value, and the version unless a tag with that key is configured, and nothing else.  Neither
    the order in which the tags are put into their map nor that in which they are gone through
    makes a difference to the list or to the file. -/
theorem tags_merged_whatever_the_order (c : PacketCluster) (ctx : RenderContext) :
    TagsMerged c ctx where
  ascending := Tags.sorted_ascending _
  listed := Tags.flatten_withVersion c.tags
  rendered := render_eq c ctx
  shown _ hb hkind := modules_show_tags hb hkind
  anyInsertion _ hperm := SortedMap.ofList_of_perm hperm
  anyEnumeration inserted hinserted enumerated henumerated := by
    have hlist : Tags.flatten enumerated = c.tagList :=
      Tags.flatten_eq_of_perm (henumerated.trans (Tags.withVersion_perm hinserted).symm)
    exact ⟨hlist, by rw [hlist, renderTagged_tagList]⟩
  onlyListed _ hlist := render_retagged hlist ctx

/-- Two tags that are written alike are both listed. -/
example : Tags.flatten [("a:b", "c"), ("b", ""), ("a", "b:c")] = ["a:b:c", "a:b:c", "b:"] := by
  decide +kernel

end Clusterwright
