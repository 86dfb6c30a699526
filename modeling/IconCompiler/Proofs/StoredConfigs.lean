import IconCompiler.Config
import Mathlib.Data.List.Nodup

namespace IconCompiler

namespace Json

def fields : Json → List (String × Json)
  | .object fields => fields
  | _ => []

def fieldsNamed (record : List (String × Json)) (names : List String) : List (String × Json) :=
  record.filter fun f => f.1 ∈ names

def storedValue? (names : List String) (f : String × Json) : Option Json := if f.1 ∈ names then some f.2 else none

/-- A record of which only the fields in `names` are stored: in any order, with fields of other names among them, or,
if they are its first fields, as a list of their values. -/
inductive Stores (record : List (String × Json)) (names : List String) : Json → Prop
  | object {fields others : List (String × Json)} (ho : ∀ f ∈ others, f.1 ∉ record.map Prod.fst)
      (hp : fields.Perm (fieldsNamed record names ++ others)) : Stores record names (.object fields)
  | list (hp : fieldsNamed record names <+: record) :
      Stores record names (.array ((fieldsNamed record names).map Prod.snd))

theorem mem_fieldsNamed {record : List (String × Json)} {names : List String} {f : String × Json} :
    f ∈ fieldsNamed record names ↔ f ∈ record ∧ f.1 ∈ names := by
  simp [fieldsNamed]

theorem stores_all (record : List (String × Json)) : Stores record (record.map Prod.fst) (.object record) := by
  have hall : fieldsNamed record (record.map Prod.fst) = record :=
    List.filter_eq_self.mpr fun f hf => decide_eq_true (List.mem_map_of_mem hf)
  refine @Stores.object _ _ record [] (by simp) ?_
  rw [hall, List.append_nil]

section Object

variable {record fields others : List (String × Json)} {names : List String}

theorem countP_field_le_one (hn : (record.map Prod.fst).Nodup) (ho : ∀ f ∈ others, f.1 ∉ record.map Prod.fst)
    (hp : fields.Perm (fieldsNamed record names ++ others)) {name : String} (h : name ∈ record.map Prod.fst) :
    fields.countP (fun f => f.1 == name) ≤ 1 := by
  have hkept : ((fieldsNamed record names).map Prod.fst).Nodup := hn.sublist (List.filter_sublist.map _)
  have hcount := List.nodup_iff_count_le_one.mp hkept name
  have hothers : others.countP (fun f => f.1 == name) = 0 := by
    rw [List.countP_eq_zero]
    intro f hf he
    exact ho f hf (beq_iff_eq.mp he ▸ h)
  rw [List.count, List.countP_map] at hcount
  rw [hp.countP_eq, List.countP_append, hothers]
  exact hcount

theorem lookup_field (hn : (record.map Prod.fst).Nodup) (ho : ∀ f ∈ others, f.1 ∉ record.map Prod.fst)
    (hp : fields.Perm (fieldsNamed record names ++ others)) {f : String × Json} (hf : f ∈ record) :
    fields.lookup f.1 = storedValue? names f := by
  unfold storedValue?
  have hname : f.1 ∈ record.map Prod.fst := List.mem_map_of_mem hf
  cases hl : fields.lookup f.1 with
  | none =>
    rw [if_neg]
    intro hm
    have hmem : f ∈ fields := hp.symm.subset (List.mem_append_left _ (mem_fieldsNamed.mpr ⟨hf, hm⟩))
    exact bne_iff_ne.mp (List.lookup_eq_none_iff.mp hl f hmem) rfl
  | some v =>
    obtain ⟨before, after, hfields, -⟩ := List.lookup_eq_some_iff.mp hl
    have hmem : (f.1, v) ∈ fieldsNamed record names ++ others := hp.subset (by simp [hfields])
    rcases List.mem_append.mp hmem with hkept | hother
    · obtain ⟨hrecord, hm⟩ := mem_fieldsNamed.mp hkept
      have he : (f.1, v) = f := List.inj_on_of_nodup_map hn hrecord hf rfl
      rw [if_pos hm, ← he]
    · exact absurd hname (ho (f.1, v) hother)

end Object

theorem map_storedValue?_of_isPrefix {record : List (String × Json)} {names : List String}
    (hn : (record.map Prod.fst).Nodup) (hp : fieldsNamed record names <+: record) :
    record.map (storedValue? names) = ((fieldsNamed record names).map Prod.snd).map some ++
      List.replicate (record.length - (fieldsNamed record names).length) none := by
  obtain ⟨rest, hrecord⟩ := hp
  have hstored : (fieldsNamed record names).map (storedValue? names) =
      ((fieldsNamed record names).map Prod.snd).map some := by
    rw [List.map_map]
    exact List.map_congr_left fun f hf => if_pos (mem_fieldsNamed.mp hf).2
  -- The fields after the stored ones are not named, since no name comes twice.
  have hmissing : rest.map (storedValue? names) = List.replicate rest.length none := by
    rw [← List.map_const]
    refine List.map_congr_left fun f hf => if_neg fun hm => ?_
    have hkept : f ∈ fieldsNamed record names := mem_fieldsNamed.mpr ⟨hrecord ▸ List.mem_append_right _ hf, hm⟩
    rw [← hrecord, List.map_append] at hn
    exact List.disjoint_of_nodup_append hn (List.mem_map_of_mem hkept) (List.mem_map_of_mem hf)
  have hlength : record.length - (fieldsNamed record names).length = rest.length := by
    rw [← hrecord, List.length_append, hrecord, Nat.add_sub_cancel_left]
  rw [hlength, ← hstored, ← hmissing, ← List.map_append, hrecord]

theorem record?_of_stores {record : List (String × Json)} {names : List String} {j : Json}
    (hn : (record.map Prod.fst).Nodup) (h : Stores record names j) :
    j.record? (record.map Prod.fst) = some (record.map (storedValue? names)) := by
  cases h with
  | object ho hp =>
    rw [record?, if_pos (List.all_eq_true.mpr fun name hm => decide_eq_true (countP_field_le_one hn ho hp hm)),
      List.map_map]
    congr 1
    exact List.map_congr_left fun f hf => lookup_field hn ho hp hf
  | list hp =>
    have hle : ((fieldsNamed record names).map Prod.snd).length ≤ (record.map Prod.fst).length := by
      rw [List.length_map, List.length_map]
      exact hp.length_le
    rw [record?, if_pos hle, List.length_map, List.length_map, map_storedValue?_of_isPrefix hn hp]

theorem bool?_bool (b : Bool) : Json.bool? (.bool b) = some b := rfl

theorem string?_string (s : String) : Json.string? (.string s) = some s := rfl

theorem fieldOr_storedValue? {α : Type} {read? : Json → Option α} {default value : α} {j : Json} (names : List String)
    (name : String) (h : read? j = some value) :
    fieldOr read? default (storedValue? names (name, j)) = some (if name ∈ names then value else default) := by
  unfold storedValue?
  split
  · exact h
  · rfl

end Json

open Json

def Features.keeping (names : List String) (f : Features) : Features where
  animation := if "animation" ∈ names then f.animation else none.animation
  theming := if "theming" ∈ names then f.theming else none.theming
  rtl := if "rtl" ∈ names then f.rtl else none.rtl
  preview := if "preview" ∈ names then f.preview else none.preview
  dts := if "dts" ∈ names then f.dts else none.dts
  treeshaking := if "treeshaking" ∈ names then f.treeshaking else none.treeshaking

def Defaults.keeping (names : List String) (d : Defaults) : Defaults where
  size := if "defaultSize" ∈ names then d.size else standard.size
  color := if "defaultColor" ∈ names then d.color else standard.color
  customClass := if "customClass" ∈ names then d.customClass else standard.customClass
  customStyle := if "customStyle" ∈ names then d.customStyle else standard.customStyle

def Naming.keeping (names : List String) (n : Naming) : Naming where
  lead := if "prefix" ∈ names then n.lead else plain.lead
  trail := if "suffix" ∈ names then n.trail else plain.trail

theorem Features.ofJson?_of_stores {f : Features} {names : List String} {j : Json}
    (h : Stores f.toJson.fields names j) : Features.ofJson? j = some (f.keeping names) := by
  have hrecord := record?_of_stores (by simp [toJson, Json.fields]) h
  simp only [toJson, Json.fields, List.map_cons, List.map_nil] at hrecord
  rw [ofJson?, hrecord]
  simp only [fieldOr_storedValue? _ _ (bool?_bool _), Option.bind_eq_bind, Option.bind_some]
  rfl

theorem Defaults.ofJson?_of_stores {d : Defaults} {names : List String} {j : Json}
    (h : Stores d.toJson.fields names j) : Defaults.ofJson? j = some (d.keeping names) := by
  have hrecord := record?_of_stores (by simp [toJson, Json.fields]) h
  simp only [toJson, Json.fields, List.map_cons, List.map_nil] at hrecord
  rw [ofJson?, hrecord]
  simp only [fieldOr_storedValue? _ _ (bool?_bool _), fieldOr_storedValue? _ _ (string?_string _),
    Option.bind_eq_bind, Option.bind_some]
  rfl

theorem Naming.ofJson?_of_stores {n : Naming} {names : List String} {j : Json}
    (h : Stores n.toJson.fields names j) : Naming.ofJson? j = some (n.keeping names) := by
  have hrecord := record?_of_stores (by simp [toJson, Json.fields]) h
  simp only [toJson, Json.fields, List.map_cons, List.map_nil] at hrecord
  rw [ofJson?, hrecord]
  simp only [fieldOr_storedValue? _ _ (string?_string _), Option.bind_eq_bind, Option.bind_some]
  rfl

theorem Target.ofJson?_toJson (t : Target) : ofJson? t.toJson = some t := by
  cases t <;> decide

namespace Config

theorem targetsOfJson?_array (ts : List Target) : targetsOfJson? (.array (ts.map Target.toJson)) = some ts := by
  change (ts.map Target.toJson).mapM Target.ofJson? = some ts
  induction ts with
  | nil => rfl
  | cons t ts ih =>
    rw [List.map_cons, List.mapM_cons, ih, t.ofJson?_toJson]
    rfl

def fieldsWith (c : Config) (features defaults naming : Json) : List (String × Json) :=
  [("targets", .array (c.targets.map Target.toJson)), ("typescript", .bool c.typescript),
    ("features", features), ("defaults", defaults), ("naming", naming), ("classPrefix", .string c.baseClass)]

structure StoredNames where
  config : List String
  features : List String
  defaults : List String
  naming : List String

def keeping (names : StoredNames) (c : Config) : Config where
  targets := if "targets" ∈ names.config then c.targets else standard.targets
  typescript := if "typescript" ∈ names.config then c.typescript else standard.typescript
  features := if "features" ∈ names.config then c.features.keeping names.features else standard.features
  defaults := if "defaults" ∈ names.config then c.defaults.keeping names.defaults else standard.defaults
  naming := if "naming" ∈ names.config then c.naming.keeping names.naming else standard.naming
  baseClass := if "classPrefix" ∈ names.config then c.baseClass else standard.baseClass

def StoredAs (c : Config) (names : StoredNames) (j : Json) : Prop :=
  ∃ features defaults naming : Json,
    Stores c.features.toJson.fields names.features features ∧ Stores c.defaults.toJson.fields names.defaults defaults ∧
      Stores c.naming.toJson.fields names.naming naming ∧ Stores (c.fieldsWith features defaults naming) names.config j

theorem ofJson?_of_storedAs {c : Config} {names : StoredNames} {j : Json} (h : c.StoredAs names j) :
    Config.ofJson? j = some (c.keeping names) := by
  obtain ⟨features, defaults, naming, hfeatures, hdefaults, hnaming, h⟩ := h
  have hrecord := record?_of_stores (by simp [fieldsWith]) h
  simp only [fieldsWith, List.map_cons, List.map_nil] at hrecord
  rw [ofJson?, hrecord]
  simp only [fieldOr_storedValue? _ _ (targetsOfJson?_array c.targets), fieldOr_storedValue? _ _ (bool?_bool _),
    fieldOr_storedValue? _ _ (Features.ofJson?_of_stores hfeatures),
    fieldOr_storedValue? _ _ (Defaults.ofJson?_of_stores hdefaults),
    fieldOr_storedValue? _ _ (Naming.ofJson?_of_stores hnaming), fieldOr_storedValue? _ _ (string?_string _),
    Option.bind_eq_bind, Option.bind_some]
  rfl

def StoredNames.all : StoredNames where
  config := ["targets", "typescript", "features", "defaults", "naming", "classPrefix"]
  features := ["animation", "theming", "rtl", "preview", "dts", "treeshaking"]
  defaults := ["defaultSize", "defaultColor", "customClass", "customStyle"]
  naming := ["prefix", "suffix"]

theorem storedAs_toJson (c : Config) : c.StoredAs .all c.toJson :=
  ⟨c.features.toJson, c.defaults.toJson, c.naming.toJson, stores_all _, stores_all _, stores_all _, stores_all _⟩

theorem keeping_all (c : Config) : c.keeping .all = c := by
  simp [keeping, Features.keeping, Defaults.keeping, Naming.keeping, StoredNames.all]

/-- A configuration is read back from what it is stored as. Stored with only some of its fields, at the top or in its
parts, it is read back with the defaults of the others; neither the order of the fields nor fields of other names
count, and a record may be the list of its first fields. -/
theorem ofJson?_stored (c : Config) :
    Config.ofJson? c.toJson = some c ∧
      ∀ (names : StoredNames) (j : Json), c.StoredAs names j → Config.ofJson? j = some (c.keeping names) := by
  refine ⟨?_, fun names j h => ofJson?_of_storedAs h⟩
  rw [ofJson?_of_storedAs c.storedAs_toJson, keeping_all]

theorem ofJson?_stored_partly :
    let c : Config := ⟨[.vue, .react], false, ⟨true, true, false, false, true, false⟩, ⟨"1em", "red", true, true⟩,
      ⟨"Ld", "Icon"⟩, "x"⟩
    let names : StoredNames := ⟨["features", "naming", "targets"], ["animation"], [], ["suffix"]⟩
    let j : Json := .object [("features", .array [.bool true]), ("targets", .array [.string "vue", .string "react"]),
      ("naming", .object [("Suffix", .null), ("suffix", .string "Icon")]), ("version", .null)]
    c.StoredAs names j ∧ Config.ofJson? j = some (c.keeping names) := by
  intro c names j
  have hstored : c.StoredAs names j := by
    refine ⟨.array [.bool true], .array [], .object [("Suffix", .null), ("suffix", .string "Icon")],
      .list ⟨c.features.toJson.fields.tail, rfl⟩, .list ⟨c.defaults.toJson.fields, rfl⟩, ?_, ?_⟩
    · exact @Stores.object _ _ _ [("Suffix", .null)] (by decide) (.swap _ _ _)
    · exact @Stores.object _ _ _ [("version", .null)] (by decide) (.swap _ _ _)
  exact ⟨hstored, (ofJson?_stored c).2 names j hstored⟩

end Config

end IconCompiler
