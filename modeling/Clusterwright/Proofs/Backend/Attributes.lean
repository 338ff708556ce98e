import Clusterwright.Backend
import Clusterwright.Proofs.Json.Quoting
import Clusterwright.Proofs.Json.Reading

/-! # Attributes — a backend block is read back line by line

    A block is written for another program.  Here it is read by somebody who knows only how an
    attribute looks: four blanks, a name, the blanks that pad it, an equals sign and a quoted text.
    Whatever the texts are, all of them are found again:

    * `linesOf_backendBlock`: no value leaves its line;
    * `attributeOf?_attributeLine`: the line of an attribute is read as that attribute, however
      far its name is padded, and `attributeOf?_eq_none` that other lines are read as none;
    * `readAttributes_backendBlock`: so the attributes that are read are those that were written;
    * **`backend_block_loses_nothing`**: for each backend, its fields, set or not, are what is
      read in its block. -/

namespace Clusterwright

open Text

namespace Hcl

/-! ## Reading -/

/-- The attribute that a line sets. -/
def attributeOf? (line : String) : Option (String × String) :=
  match line.toList with
  | ' ' :: ' ' :: ' ' :: ' ' :: body =>
    match (body.dropWhile (· ≠ ' ')).dropWhile (· = ' ') with
    | '=' :: ' ' :: value =>
      match Json.parse (String.ofList value) with
      | .ok (.text v) => some (String.ofList (body.takeWhile (· ≠ ' ')), v)
      | _ => none
    | _ => none
  | _ => none

/-- The attributes that the lines of a text set. -/
def readAttributes (text : String) : List (String × String) :=
  (linesOf text).filterMap attributeOf?

/-! ## Lines -/

/-- Lines that are joined and ended by line breaks are each ended by one. -/
theorem intercalate_newline {lines : List String} (h : lines ≠ []) :
    "\n".intercalate lines ++ "\n" = String.join (lines.map (· ++ "\n")) := by
  induction lines with
  | nil => exact absurd rfl h
  | cons line lines ih =>
      cases lines with
      | nil => simp [String.join_cons]
      | cons next lines =>
          rw [String.intercalate_cons_cons, String.append_assoc, ih (List.cons_ne_nil _ _)]
          simp only [List.map_cons, String.join_cons]

theorem linesOf_block {lines : List String} (hne : lines ≠ []) (h : ∀ line ∈ lines, Unbroken line) :
    linesOf ("\n".intercalate lines ++ "\n") = lines ++ [""] := by
  have hlines : ∀ line ∈ lines, linesOf line = [line] :=
    fun line hline => linesOf_of_unbroken (h line hline)
  rw [intercalate_newline hne, linesOf_join, List.flatMap_congr hlines, List.flatMap_singleton']

/-- A name that can be told from what stands around it. -/
def IsName (name : String) : Prop := ' ' ∉ name.toList ∧ Unbroken name

instance (name : String) : Decidable (IsName name) := inferInstanceAs (Decidable (_ ∧ _))

theorem unbroken_padName {name : String} (h : Unbroken name) (width : Nat) :
    Unbroken (padName width name) := by
  unfold padName
  refine unbroken_append.mpr ⟨h, ?_⟩
  simp [Unbroken]

theorem unbroken_attributeLine {a : String × String} (h : Unbroken a.1) (width : Nat) :
    Unbroken (attributeLine width a) := by
  unfold attributeLine
  simp only [unbroken_append]
  exact ⟨⟨⟨by decide +kernel, unbroken_padName h width⟩, by decide +kernel⟩,
    Json.unbroken_quote a.2⟩

variable {kind : String} {attributes : List (String × String)}

theorem unbroken_backendLines (h : ∀ a ∈ attributes, IsName a.1) (kind : String) :
    ∀ line ∈ backendLines kind attributes, Unbroken line := by
  have hkind (after : String) (hafter : Unbroken after) :
      Unbroken ("  backend " ++ quote kind ++ after) := by
    simp only [unbroken_append]
    exact ⟨⟨by decide +kernel, Json.unbroken_quote kind⟩, hafter⟩
  unfold backendLines
  split
  · simp only [List.forall_mem_cons]
    exact ⟨by decide +kernel, hkind _ (by decide +kernel), by decide +kernel, List.forall_mem_nil _⟩
  · simp only [List.forall_mem_append, List.forall_mem_cons, List.forall_mem_map]
    exact ⟨⟨⟨by decide +kernel, hkind _ (by decide +kernel), List.forall_mem_nil _⟩,
      fun a ha => unbroken_attributeLine (h a ha).2 _⟩, by decide +kernel, by decide +kernel,
      List.forall_mem_nil _⟩

theorem linesOf_backendBlock (h : ∀ a ∈ attributes, IsName a.1) (kind : String) :
    linesOf (backendBlock kind attributes) = backendLines kind attributes ++ [""] := by
  refine linesOf_block ?_ (unbroken_backendLines h kind)
  unfold backendLines
  split <;> simp

/-! ## Attributes -/

/-- The blanks after a name are no part of it, however many there are. -/
theorem attributeOf?_attributeLine {a : String × String} (h : IsName a.1) (width : Nat) :
    attributeOf? (attributeLine width a) = some a := by
  obtain ⟨name, value⟩ := a
  have hname : ∀ c ∈ name.toList, decide (c ≠ ' ') = true := by
    intro c hc
    refine decide_eq_true ?_
    rintro rfl
    exact h.1 hc
  have hline : (attributeLine width (name, value)).toList =
      ' ' :: ' ' :: ' ' :: ' ' :: (name.toList ++ (List.replicate (width - name.length) ' ' ++
        ' ' :: '=' :: ' ' :: (quote value).toList)) := by
    simp [attributeLine, padName]
  have hrest (n : Nat) (text : List Char) :
      (List.replicate n ' ' ++ ' ' :: '=' :: ' ' :: text).dropWhile (· ≠ ' ') =
        List.replicate n ' ' ++ ' ' :: '=' :: ' ' :: text := by
    cases n <;> simp [List.replicate_succ]
  have hblanks (n : Nat) (text : List Char) :
      (List.replicate n ' ' ++ ' ' :: '=' :: ' ' :: text).dropWhile (· = ' ') =
        '=' :: ' ' :: text := by
    rw [List.dropWhile_append_of_pos (by simp)]
    simp
  have htaken (n : Nat) (text : List Char) :
      (List.replicate n ' ' ++ ' ' :: '=' :: ' ' :: text).takeWhile (· ≠ ' ') = [] := by
    cases n <;> simp [List.replicate_succ]
  unfold attributeOf?
  rw [hline]
  simp only
  rw [List.dropWhile_append_of_pos hname, hrest, hblanks, List.takeWhile_append_of_pos hname,
    htaken, List.append_nil]
  simp only
  rw [String.ofList_toList, String.ofList_toList, quote, Json.parse_quote]

/-- A line that is not indented by four blanks sets nothing. -/
theorem attributeOf?_eq_none {line : String} (h : ¬ [' ', ' ', ' ', ' '] <+: line.toList) :
    attributeOf? line = none := by
  unfold attributeOf?
  split
  case h_1 body hline => exact absurd ⟨body, hline.symm⟩ h
  case h_2 => rfl

theorem readAttributes_backendBlock (h : ∀ a ∈ attributes, IsName a.1) (kind : String) :
    readAttributes (backendBlock kind attributes) = attributes := by
  have hkind (after : String) : attributeOf? ("  backend " ++ quote kind ++ after) = none :=
    attributeOf?_eq_none (by simp)
  have htop : attributeOf? "terraform \x7b" = none := attributeOf?_eq_none (by decide +kernel)
  have hinner : attributeOf? "  \x7d" = none := attributeOf?_eq_none (by decide +kernel)
  have houter : attributeOf? "\x7d" = none := attributeOf?_eq_none (by decide +kernel)
  have hlast : attributeOf? "" = none := attributeOf?_eq_none (by decide +kernel)
  rw [readAttributes, linesOf_backendBlock h]
  unfold backendLines
  split
  case isTrue hempty =>
    rw [List.isEmpty_iff.mp hempty]
    simp [hkind, htop, houter, hlast]
  case isFalse =>
    have hread : (attributes.map (attributeLine (widest attributes))).filterMap attributeOf? =
        attributes := by
      rw [List.filterMap_map]
      exact (List.filterMap_congr fun a ha => attributeOf?_attributeLine (h a ha) _).trans
        List.filterMap_some
    simp only [List.filterMap_append, hread]
    simp [hkind, htop, hinner, houter, hlast]

theorem length_backendLines (kind : String) (attributes : List (String × String)) :
    (backendLines kind attributes).length =
      if attributes = [] then 3 else 4 + attributes.length := by
  unfold backendLines
  cases attributes with
  | nil => rfl
  | cons a attributes => simp; omega

end Hcl

namespace Backend

/-- The fields of a backend, under the names that they have in its block. -/
def fields : Backend → List (String × Option String)
  | .local b => [("path", b.path)]
  | .s3 b =>
    [("bucket", some b.bucket), ("key", some b.key), ("region", some b.region),
      ("shared_credentials_file", b.credentials), ("dynamodb_table", b.lockTable)]

/-- The fields that are set, with their values. -/
def setFields (b : Backend) : List (String × String) :=
  b.fields.filterMap fun f => f.2.map fun value => (f.1, value)

theorem attributes_eq (b : Backend) : b.attributes = b.setFields := by
  obtain ⟨⟨path⟩⟩ | ⟨⟨bucket, key, region, credentials, lockTable⟩⟩ := b
  · cases path <;> rfl
  · cases credentials <;> cases lockTable <;> rfl

theorem isName_setFields (b : Backend) : ∀ a ∈ b.setFields, Hcl.IsName a.1 := by
  have hfields : ∀ f ∈ b.fields, Hcl.IsName f.1 := by
    cases b <;> simp only [fields, List.forall_mem_cons] <;> decide +kernel
  intro a ha
  obtain ⟨f, hf, hvalue⟩ := List.mem_filterMap.mp ha
  obtain ⟨value, -, rfl⟩ := Option.map_eq_some_iff.mp hvalue
  exact hfields f hf

/-- A field that is set is found under its name, and one that is not set is not found. -/
theorem lookup_setFields (b : Backend) : ∀ f ∈ b.fields, b.setFields.lookup f.1 = f.2 := by
  obtain ⟨⟨path⟩⟩ | ⟨⟨bucket, key, region, credentials, lockTable⟩⟩ := b
  · cases path <;> simp [fields, setFields]
  · cases credentials <;> cases lockTable <;> simp [fields, setFields, List.lookup_cons]

/-- A bucket is set in one kind of backend only. -/
theorem setFields_ne {a : LocalBackend} {b : BucketBackend} :
    (Backend.local a).setFields ≠ (Backend.s3 b).setFields := by
  intro h
  have hbucket : ("bucket", b.bucket) ∈ (Backend.s3 b).setFields := by simp [setFields, fields]
  rw [← h] at hbucket
  simp [setFields, fields] at hbucket

/-- Backends with the same fields set to the same values are equal, of whatever kind they are. -/
theorem eq_of_setFields {a b : Backend} (h : a.setFields = b.setFields) : a = b := by
  have hfields : ∀ f ∈ a.fields, ∀ g ∈ b.fields, f.1 = g.1 → f.2 = g.2 := by
    intro f hf g hg hname
    rw [← a.lookup_setFields f hf, ← b.lookup_setFields g hg, h, hname]
  obtain ⟨⟨path⟩⟩ | ⟨⟨bucket, key, region, credentials, lockTable⟩⟩ := a
  · obtain ⟨⟨path'⟩⟩ | b := b
    · simpa [fields] using hfields
    · exact absurd h setFields_ne
  · obtain b | ⟨⟨bucket', key', region', credentials', lockTable'⟩⟩ := b
    · exact absurd h.symm setFields_ne
    · simpa [fields] using hfields

/-- What is read in a text is a backend: as many lines as its set fields need, the last one ended
    as well, and each of its fields as it is. -/
structure ReadIn (b : Backend) (text : String) : Prop where
  ended : text.toList.getLast? = some '\n'
  lines : ∃ lines, linesOf text = lines ++ [""] ∧
    lines.length = if b.setFields = [] then 3 else 4 + b.setFields.length
  attributes : Hcl.readAttributes text = b.setFields
  fields : ∀ f ∈ b.fields, (Hcl.readAttributes text).lookup f.1 = f.2

theorem readIn_render (b : Backend) : b.ReadIn b.render := by
  have hnames : ∀ a ∈ b.attributes, Hcl.IsName a.1 := by
    rw [attributes_eq]
    exact b.isName_setFields
  have hread : Hcl.readAttributes b.render = b.setFields := by
    rw [render, Hcl.readAttributes_backendBlock hnames, attributes_eq]
  constructor
  case ended =>
    rw [render, Hcl.backendBlock, String.toList_append, List.getLast?_append]
    rfl
  case lines =>
    refine ⟨_, Hcl.linesOf_backendBlock hnames b.name, ?_⟩
    rw [Hcl.length_backendLines, attributes_eq]
  case attributes => exact hread
  case fields =>
    rw [hread]
    exact b.lookup_setFields

end Backend

/-- **THE BACKEND BLOCK LOSES NOTHING**: whatever texts a backend is configured with, its block has
    the lines it should have, each attribute is read back in its own line, and those that are not
    set are not read.  Hence backends that differ are written differently, of whatever kind they
    are. -/
theorem backend_block_loses_nothing :
    (∀ b : Backend, b.ReadIn b.render) ∧ Function.Injective Backend.render := by
  refine ⟨Backend.readIn_render, fun a b hrender => Backend.eq_of_setFields ?_⟩
  rw [← a.readIn_render.attributes, hrender, b.readIn_render.attributes]

end Clusterwright
