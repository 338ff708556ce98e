import Clusterwright.Proofs.Json.Reading
import Clusterwright.Proofs.Lifecycle.Passes
import Clusterwright.Proofs.Tool.Engines
import Mathlib.Data.List.Nodup

/-! # Chart values — what the control plane is deployed with

    The values of a release of the control plane come from an output of the provisioning engine.
    What the engine writes goes through two readers, and each of them knows some texts that stand
    for nothing: the first takes a blank text for an empty object, and the second refuses null.

    * `HoldsNothing`, `StandsForNothing`: values that say nothing, and texts that stand for such;
    * `holdsNothing_iff`: both readers in turn keep the two together;
    * `exists_outcome_of_output`: an output was written by a run of the engine that went well;
    * `Passed.deployed`, `Passed.unread`: what a pass deploys was fetched for it, and values that
      cannot be read end it;
    * **`deployed_values_stand_for_outputs`**: an update of the control plane. -/

namespace Clusterwright.Lifecycle

open Script (Run)
open Tool (Outcome Record Terraform.output Terraform.parseOutput)

variable {assets : AssetTree} {kubelets : Bool} {said : Conversation} {name text : String}
  {raw : Json} {values : Yaml.Value} {r : Except Failure ReleaseReport}

/-! ## Nothing -/

/-- Values that say nothing. -/
def HoldsNothing (values : Yaml.Value) : Prop := values = .null ∨ values = .map []

/-- What the engine wrote stands for nothing: it is blank, an empty object, or a text with a
    document that holds nothing. -/
inductive StandsForNothing (text : String) : Prop where
  | blank : Text.isAllBlank text = true → StandsForNothing text
  | object : Json.parse text = .ok (.object []) → StandsForNothing text
  | document {document : String} {values : Yaml.Value} : Json.parse text = .ok (.text document) →
      Yaml.parse document = .ok values → HoldsNothing values → StandsForNothing text

/-- Words for a failure do not change a success. -/
theorem withContext_ok_iff {ε α : Type} {circumstance : String} {f : ε → Mishap}
    {result : Except ε α} {a : α} :
    withContext circumstance (result.mapError f) = .ok a ↔ result = .ok a := by
  cases result with
  | error e => simp [withContext, Except.mapError]
  | ok b => simp [withContext, Except.mapError]

theorem holdsNothing_ofJson_iff (hnull : raw ≠ .null) :
    HoldsNothing (.ofJson raw) ↔ raw = .object [] := by
  cases raw with
  | null => exact absurd rfl hnull
  | object members =>
      cases members with
      | nil => simp [HoldsNothing, Yaml.Value.ofJson, Yaml.Value.ofJsonMembers]
      | cons m members => simp [HoldsNothing, Yaml.Value.ofJson, Yaml.Value.ofJsonMembers]
  | _ => simp [HoldsNothing, Yaml.Value.ofJson]

/-- The document in a text is read, and a value that is neither a text nor null is taken as it
    is. -/
theorem valuesOfOutput_ok (h : valuesOfOutput raw = .ok values) :
    (∃ document, raw = .text document ∧ Yaml.parse document = .ok values) ∨
      raw ≠ .null ∧ (∀ document, raw ≠ .text document) ∧ values = .ofJson raw := by
  cases raw with
  | text document => exact .inl ⟨document, rfl, withContext_ok_iff.mp h⟩
  | null => exact nomatch h
  | _ => exact .inr ⟨nofun, nofun, (Except.ok.inj h).symm⟩

theorem holdsNothing_iff_of_parse (hparse : Json.parse text = .ok raw)
    (hblank : ¬ Text.isAllBlank text = true) (hvalues : valuesOfOutput raw = .ok values) :
    HoldsNothing values ↔ StandsForNothing text := by
  have hraw {raw' : Json} (h : Json.parse text = .ok raw') : raw = raw' :=
    Except.ok.inj (hparse.symm.trans h)
  rcases valuesOfOutput_ok hvalues with ⟨document, rfl, hdocument⟩ | ⟨hnull, htext, rfl⟩
  · refine ⟨.document hparse hdocument, ?_⟩
    rintro (h | h | ⟨h, hdocument', hnothing⟩)
    · exact absurd h hblank
    · exact nomatch hraw h
    · obtain rfl := Json.text.inj (hraw h)
      obtain rfl := Except.ok.inj (hdocument.symm.trans hdocument')
      exact hnothing
  · rw [holdsNothing_ofJson_iff hnull]
    constructor
    · rintro rfl
      exact .object hparse
    · rintro (h | h | ⟨h, -, -⟩)
      · exact absurd h hblank
      · exact hraw h
      · exact absurd (hraw h) (htext _)

/-- **BOTH READERS IN TURN**: values hold nothing if and only if the text that they were read from
    stands for nothing. -/
theorem holdsNothing_iff (hraw : Terraform.parseOutput name text = .ok raw)
    (hvalues : valuesOfOutput raw = .ok values) : HoldsNothing values ↔ StandsForNothing text := by
  unfold Terraform.parseOutput at hraw
  split at hraw
  next hblank =>
    obtain rfl := Except.ok.inj hraw
    obtain rfl := Except.ok.inj hvalues
    exact ⟨fun _ => .blank hblank, fun _ => .inr rfl⟩
  next hblank => exact holdsNothing_iff_of_parse (withContext_ok_iff.mp hraw) hblank hvalues

/-! ## Outputs of the engine -/

/-- Every output is read with the tool, whatever its process comes to. -/
def ReadWithTool (said : Conversation) : Prop :=
  ∀ name r, ⟨.output name, r⟩ ∈ said → ∃ dir? record left,
    Run ((Terraform.output name).run.run dir?) record (r, left)

/-- An output was written by a run of the engine that went well. -/
theorem exists_outcome_of_output {dir? left : Option FilePath} {record : Record}
    (h : Run ((Terraform.output name).run.run dir?) record (.ok raw, left)) :
    ∃ outcome : Outcome, outcome.status = .exited 0 ∧
      Terraform.parseOutput name outcome.text = .ok raw := by
  cases dir? with
  | none => exact nomatch (Script.run_pure_iff.mp h).2
  | some dir =>
      rw [Tool.Terraform.output_eq] at h
      cases h with
      | ask _ answer h =>
          obtain ⟨-, hpair⟩ := Script.run_done_iff.mp h
          have hraw := (Prod.mk.inj hpair).1
          cases answer with
          | error m => exact nomatch hraw
          | ok outcome =>
              by_cases hstatus : outcome.status = .exited 0
              · rw [Tool.Trial.succeeded_of_exited hstatus] at hraw
                exact ⟨outcome, hstatus, hraw.symm⟩
              · rw [Tool.Trial.succeeded_of_not_exited hstatus] at hraw
                exact nomatch hraw

/-! ## Passes -/

/-- The request installs or upgrades a release with a chart and values. -/
inductive Request.Deploys (release : Release) (chart : Chart) (values : Yaml.Value) :
    Request → Prop where
  | install (atomic : Bool) : Deploys release chart values (.install release chart values atomic)
  | upgrade (atomic : Bool) : Deploys release chart values (.upgrade release chart values atomic)

variable {tasks : List Task} {t : Task} {dealt : Conversation} {release : Release}
  {chart : Chart} {m : Mishap} {x : Exchange}

theorem Request.Deploys.release_eq {q : Request} (h : q.Deploys release chart values) :
    q.release? = some release := by
  cases h with
  | install atomic => rfl
  | upgrade atomic => rfl

theorem mem_dealings_of_release (hx : x ∈ said) (h : x.question.release? = some release) :
    x ∈ dealings said := by
  refine List.mem_filter.mpr ⟨hx, ?_⟩
  obtain ⟨question, answer⟩ := x
  cases question <;> first | rfl | exact nomatch h

theorem Fetched.not_deploys {chart' : Chart} {values' : Yaml.Value}
    (h : Fetched t chart values said) (hx : x ∈ said) :
    ¬ x.question.Deploys release chart' values' :=
  fun hdeploys => nomatch (h.release_none x hx).symm.trans hdeploys.release_eq

/-- What is deployed after a query is what was fetched before it. -/
theorem Fetched.of_deploys {chart' : Chart} {values' : Yaml.Value} {fetched : Conversation}
    {found : Bool} {answer : Except Mishap Unit} (h : Fetched t chart' values' fetched)
    (hx : x ∈ fetched ++ [⟨.releaseExists t.release, .ok found⟩,
      deployment found t.release chart' values' answer])
    (hdeploys : x.question.Deploys release chart values) :
    t.release = release ∧ Fetched t chart values fetched := by
  rcases List.mem_append.mp hx with hfirst | hpair
  · exact absurd hdeploys (h.not_deploys hfirst)
  rcases List.mem_cons.mp hpair with rfl | hlast
  · exact nomatch hdeploys
  · obtain rfl := List.mem_singleton.mp hlast
    cases found with
    | true =>
        cases hdeploys with
        | upgrade => exact ⟨rfl, h⟩
    | false =>
        cases hdeploys with
        | install => exact ⟨rfl, h⟩

/-- Whatever a pass deploys was fetched for a task of it. -/
theorem Passed.deployed (h : Passed tasks dealt r) (hx : x ∈ dealt)
    (hdeploys : x.question.Deploys release chart values) :
    ∃ t ∈ tasks, t.release = release ∧
      ∃ fetched, Fetched t chart values fetched ∧ fetched ⊆ dealt := by
  induction h with
  | done => exact nomatch hx
  | @broken t m last rest hbroken =>
      cases hbroken with
      | unfetched hmissing =>
          exact nomatch (hmissing.release_none x hx).symm.trans hdeploys.release_eq
      | unanswered hfetched =>
          rcases List.mem_append.mp hx with hfirst | hquery
          · exact absurd hdeploys (hfetched.not_deploys hfirst)
          · obtain rfl := List.mem_singleton.mp hquery
            exact nomatch hdeploys
      | undeployed found hfetched =>
          obtain ⟨hrelease, hvalues⟩ := hfetched.of_deploys hx hdeploys
          exact ⟨t, List.mem_cons_self, hrelease, _, hvalues, List.subset_append_left _ _⟩
  | @settled rest more r e hfetched _ ih =>
      rcases List.mem_append.mp hx with hfirst | hmore
      · obtain ⟨hrelease, hvalues⟩ := Fetched.of_deploys hfetched hfirst hdeploys
        refine ⟨e.task, List.mem_cons_self, hrelease, _, hvalues, ?_⟩
        exact List.Subset.trans (List.subset_append_left _ _) (List.subset_append_left _ _)
      · obtain ⟨t, ht, hrelease, fetched, hvalues, hsub⟩ := ih hmore
        exact ⟨t, List.mem_cons_of_mem _ ht, hrelease, fetched, hvalues,
          List.Subset.trans hsub (List.subset_append_right _ _)⟩

/-- Values that were found can be read. -/
theorem Fetched.values_read (h : Fetched t chart values said)
    (hx : ⟨.output name, .ok raw⟩ ∈ said) : valuesOfOutput raw = .ok values := by
  cases h with
  | output _ hvalues =>
      obtain ⟨-, rfl⟩ : _ ∧ _ := by simpa using hx
      exact hvalues
  | configured => simp at hx

/-- An output that was read after all else had been found was read to find it. -/
theorem mem_fetched_of_output {fetched : Conversation} {found : Bool}
    {answer : Except Mishap Unit}
    (hx : ⟨.output name, .ok raw⟩ ∈ fetched ++ [⟨.releaseExists release, .ok found⟩,
      deployment found release chart values answer]) : ⟨.output name, .ok raw⟩ ∈ fetched := by
  rcases List.mem_append.mp hx with hfirst | hpair
  · exact hfirst
  · cases found <;> simp [deployment] at hpair

/-- An output that was read although the values were not found is one that cannot be read. -/
theorem Unfetched.values_unread (h : Unfetched t m said) (hx : ⟨.output name, .ok raw⟩ ∈ said) :
    t.origin = .output name ∧ valuesOfOutput raw = .error m := by
  cases h with
  | chart => simp at hx
  | output => simp at hx
  | values _ horigin hvalues =>
      obtain ⟨rfl, rfl⟩ : _ ∧ _ := by simpa using hx
      exact ⟨horigin, hvalues⟩
  | configured => simp at hx

/-- Values that cannot be read end a pass, and nothing is done to their release. -/
theorem Passed.unread (h : Passed tasks dealt r) (hnodup : (tasks.map Task.release).Nodup)
    (hraw : valuesOfOutput raw = .error m) (hx : ⟨.output name, .ok raw⟩ ∈ dealt) :
    ∃ t ∈ tasks, t.origin = .output name ∧ r = .error (.ofMishap t.phase m) ∧
      ∀ x ∈ dealt, x.question.release? ≠ some t.release := by
  -- what was found could be read
  have hread {t : Task} {chart : Chart} {values : Yaml.Value} {fetched : Conversation}
      (h : Fetched t chart values fetched) : ⟨.output name, .ok raw⟩ ∉ fetched :=
    fun hx => nomatch hraw.symm.trans (h.values_read hx)
  induction h with
  | done => exact nomatch hx
  | @broken t m' last rest hbroken =>
      refine ⟨t, List.mem_cons_self, ?_⟩
      cases hbroken with
      | unfetched hmissing =>
          obtain ⟨horigin, hm⟩ := hmissing.values_unread hx
          obtain rfl := Except.error.inj (hraw.symm.trans hm)
          exact ⟨horigin, rfl, fun x hx => by simp [hmissing.release_none x hx]⟩
      | unanswered hfetched =>
          rcases List.mem_append.mp hx with hfirst | hquery
          · exact absurd hfirst (hread hfetched)
          · simp at hquery
      | undeployed found hfetched => exact absurd (mem_fetched_of_output hx) (hread hfetched)
  | @settled rest more r e hfetched hpassed ih =>
      rw [List.map_cons, List.nodup_cons] at hnodup
      rcases List.mem_append.mp hx with hfirst | hmore
      · exact absurd (mem_fetched_of_output hfirst) (hread hfetched)
      obtain ⟨t, ht, horigin, rfl, huntouched⟩ := ih hnodup.2 hmore
      refine ⟨t, List.mem_cons_of_mem _ ht, horigin, rfl, ?_⟩
      intro x hx hrelease
      rcases List.mem_append.mp hx with hfirst | hlater
      · have hsame := Episode.release_eq hfetched hfirst hrelease
        exact hnodup.1 (hsame ▸ List.mem_map_of_mem ht)
      · exact huntouched x hlater hrelease

/-! ## The control plane -/

/-- The values of a release were read from what the engine wrote, and they hold nothing if and only
    if that stands for nothing. -/
def ReadFromOutput (said : Conversation) (name : String) (values : Yaml.Value) : Prop :=
  ∃ (outcome : Outcome) (raw : Json), outcome.status = .exited 0 ∧
    Terraform.parseOutput (name ++ "_values") outcome.text = .ok raw ∧
    ⟨.output (name ++ "_values"), .ok raw⟩ ∈ said ∧ valuesOfOutput raw = .ok values ∧
    (HoldsNothing values ↔ StandsForNothing outcome.text)

theorem nodup_controlPlane (assets : AssetTree) (kubelets : Bool) :
    (((Pass.controlPlane kubelets).tasks assets).map Task.release).Nodup := by
  have hnames : (controlPlaneReleases kubelets).Nodup := by
    cases kubelets with
    | true => decide
    | false => decide
  rw [Pass.tasks, List.map_map]
  exact hnames.map fun name name' h => congrArg Release.name h

/-- **WHAT THE CONTROL PLANE IS DEPLOYED WITH**: each release gets the values that the engine wrote
    for it, which hold nothing exactly if that stands for nothing; and an output that holds no
    values, such as null, ends the update with a failure that names the release, to which nothing
    is done. -/
theorem deployed_values_stand_for_outputs (h : Run (updateControlPlane assets kubelets).run said r)
    (htool : ReadWithTool said) :
    (∀ x ∈ said, ∀ release chart values, x.question.Deploys release chart values →
      ∃ name ∈ controlPlaneReleases kubelets, release = ⟨name, controlPlaneSpace⟩ ∧
        ReadFromOutput said name values) ∧
    ∀ name raw m, ⟨.output (name ++ "_values"), .ok raw⟩ ∈ said → valuesOfOutput raw = .error m →
      r = .error (.ofMishap ("updating control plane component '" ++ name ++ "'") m) ∧
        ∀ x ∈ said, x.question.release? ≠ some ⟨name, controlPlaneSpace⟩ := by
  have hpassed : Passed ((Pass.controlPlane kubelets).tasks assets) (dealings said) r :=
    passed_of_run h
  constructor
  · intro x hx release chart values hdeploys
    have hdealt := mem_dealings_of_release hx hdeploys.release_eq
    obtain ⟨t, ht, rfl, fetched, hfetched, hsub⟩ := hpassed.deployed hdealt hdeploys
    obtain ⟨name, hname, rfl⟩ := List.mem_map.mp ht
    refine ⟨name, hname, rfl, ?_⟩
    cases hfetched with
    | configured horigin => exact nomatch horigin
    | @output _ raw horigin hvalues =>
        obtain rfl := ValuesOrigin.output.inj horigin
        have hread : ⟨.output (name ++ "_values"), .ok raw⟩ ∈ said :=
          (List.mem_filter.mp (hsub (by simp))).1
        obtain ⟨dir?, record, left, hrun⟩ := htool _ _ hread
        obtain ⟨outcome, hstatus, hraw⟩ := exists_outcome_of_output hrun
        exact ⟨outcome, raw, hstatus, hraw, hread, hvalues, holdsNothing_iff hraw hvalues⟩
  · intro name raw m hread hraw
    have hdealt : (⟨.output (name ++ "_values"), .ok raw⟩ : Exchange) ∈ dealings said :=
      List.mem_filter.mpr ⟨hread, rfl⟩
    obtain ⟨t, ht, horigin, rfl, huntouched⟩ :=
      hpassed.unread (nodup_controlPlane assets kubelets) hraw hdealt
    obtain ⟨name', hname, rfl⟩ := List.mem_map.mp ht
    obtain rfl : name' = name := (String.append_left_inj _).mp (ValuesOrigin.output.inj horigin)
    refine ⟨rfl, fun x hx hrelease => ?_⟩
    exact huntouched x (mem_dealings_of_release hx hrelease) hrelease

/-! ## Two updates -/

/-- Whatever the engine writes is an output. -/
theorem exists_run_output {outcome : Outcome} (hstatus : outcome.status = .exited 0)
    (hraw : Terraform.parseOutput name outcome.text = .ok raw) :
    ∃ dir? record left, Run ((Terraform.output name).run.run dir?) record (.ok raw, left) := by
  have hrun : Run ((Terraform.output name).run.run (some "terraform"))
      [⟨.capture (Tool.Terraform.commandIn "terraform" (Tool.Terraform.outputArguments name)),
        .ok outcome⟩] (.ok raw, some "terraform") := by
    rw [Tool.Terraform.output_eq]
    refine .ask _ _ ?_
    rw [Tool.Trial.succeeded_of_exited hstatus, ← hraw]
    exact .done _
  exact ⟨_, _, _, hrun⟩

/-- The chart of the first release of the control plane. -/
def checkpointer : Chart := ⟨"pod-checkpointer", "0.1.0", "/srv"⟩

/-- The first release is upgraded with nothing, and the chart of the second is missing. -/
def upgradedWithNothing (assets : AssetTree) : Conversation :=
  [⟨.loadChart (assets.controlPlaneChart "pod-checkpointer"), .ok checkpointer⟩,
    ⟨.output "pod-checkpointer_values", .ok (.object [])⟩,
    ⟨.releaseExists ⟨"pod-checkpointer", controlPlaneSpace⟩, .ok true⟩,
    ⟨.notify (.step ("Ensuring '" ++ "pod-checkpointer" ++ "' is up to date...")), ()⟩,
    ⟨.upgrade ⟨"pod-checkpointer", controlPlaneSpace⟩ checkpointer (.map []) true, .ok ()⟩,
    ⟨.loadChart (assets.controlPlaneChart "kube-apiserver"), .error (.of "No such file")⟩]

theorem run_upgradedWithNothing (assets : AssetTree) :
    ∃ f, Run (updateControlPlane assets false).run (upgradedWithNothing assets) (.error f) :=
  ⟨_, .ask _ _ (.ask _ _ (.ask _ _ (.ask _ _ (.ask _ _ (.ask _ _ (.done _))))))⟩

/-- The engine went well and wrote nothing. -/
theorem upgradedWithNothing_read (assets : AssetTree) :
    ReadWithTool (upgradedWithNothing assets) := by
  intro name r hx
  obtain ⟨rfl, rfl⟩ : name = "pod-checkpointer_values" ∧ r = .ok (.object []) := by
    simpa [upgradedWithNothing] using hx
  have hblank : Outcome.text ⟨.exited 0, [], []⟩ = "" := by decide +kernel
  have hraw : Terraform.parseOutput "pod-checkpointer_values" (Outcome.text ⟨.exited 0, [], []⟩) =
      .ok (.object []) := by
    rw [hblank]
    rfl
  exact exists_run_output rfl hraw

theorem upgradedWithNothing_deploys (assets : AssetTree) :
    ∃ x ∈ upgradedWithNothing assets, x.question.Deploys ⟨"pod-checkpointer", controlPlaneSpace⟩
      checkpointer (.map []) :=
  ⟨⟨.upgrade ⟨"pod-checkpointer", controlPlaneSpace⟩ checkpointer (.map []) true, .ok ()⟩,
    by simp [upgradedWithNothing], .upgrade true⟩

theorem deployed_values_stand_for_outputs_blank :
    ∃ f, Run (updateControlPlane ⟨"/srv/demo"⟩ false).run (upgradedWithNothing ⟨"/srv/demo"⟩)
        (.error f) ∧
      ReadWithTool (upgradedWithNothing ⟨"/srv/demo"⟩) ∧
      ReadFromOutput (upgradedWithNothing ⟨"/srv/demo"⟩) "pod-checkpointer" (.map []) := by
  obtain ⟨f, hrun⟩ := run_upgradedWithNothing ⟨"/srv/demo"⟩
  have htool := upgradedWithNothing_read ⟨"/srv/demo"⟩
  obtain ⟨x, hx, hdeploys⟩ := upgradedWithNothing_deploys ⟨"/srv/demo"⟩
  obtain ⟨name, -, hrelease, hread⟩ :=
    (deployed_values_stand_for_outputs hrun htool).1 x hx _ _ _ hdeploys
  obtain rfl := (Release.mk.inj hrelease).1
  exact ⟨f, hrun, htool, hread⟩

/-- The control plane can be deployed with nothing. -/
theorem control_plane_deployed_with_nothing :
    ¬ ∀ assets kubelets said r, Run (updateControlPlane assets kubelets).run said r →
      ReadWithTool said → ∀ x ∈ said, ∀ release chart values,
        x.question.Deploys release chart values → ¬ HoldsNothing values := by
  intro hnever
  obtain ⟨f, hrun⟩ := run_upgradedWithNothing ⟨"/srv/demo"⟩
  obtain ⟨x, hx, hdeploys⟩ := upgradedWithNothing_deploys ⟨"/srv/demo"⟩
  exact hnever _ _ _ _ hrun (upgradedWithNothing_read _) x hx _ _ _ hdeploys (.inr rfl)

end Clusterwright.Lifecycle
