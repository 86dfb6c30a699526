import IconCompiler.Emit.Output

/-!
What of a document reaches its components. Elements are seen without paint, without text beside
children and without empty text; of the root only the kept attributes and the kind of paint are seen.
-/

namespace IconCompiler

open IconCompiler.Emit IconCompiler.Markup

namespace Markup

theorem Attributes.filter_filter (as : Attributes) (p : String → Bool) : (as.filter p).filter p = as.filter p := by
  simp [filter, List.filter_filter]

namespace Element

mutual
def visible : Element → Element
  | ⟨tag, attributes, children, content⟩ =>
    ⟨tag, attributes.filter fun name => !isPaint name, visibleList children,
      if children.isEmpty then content.filter fun s => s ≠ "" else none⟩

def visibleList : List Element → List Element
  | [] => []
  | e :: es => visible e :: visibleList es
end

end Element

def Attributes.mapValues (f : String → Value → Value) (as : Attributes) : Attributes :=
  ⟨as.entries.map fun e => (e.1, f e.1 e.2)⟩

mutual
def Element.mapValues (f : String → Value → Value) : Element → Element
  | ⟨tag, attributes, children, content⟩ => ⟨tag, attributes.mapValues f, mapValuesList f children, content⟩

def Element.mapValuesList (f : String → Value → Value) : List Element → List Element
  | [] => []
  | e :: es => mapValues f e :: mapValuesList f es
end

def Document.edit (d : Document) (root inner : String → Value → Value) (source : String) : Document :=
  ⟨d.attributes.mapValues root, Element.mapValuesList inner d.children, source⟩

def Value.outlines (v : Value) : Bool := v.text?.any fun s => Text.trimmed s = "none"

theorem Attributes.filter_mapValues {f : String → Value → Value} {p : String → Bool}
    (h : ∀ name value, p name = true → f name value = value) (as : Attributes) :
    (as.mapValues f).filter p = as.filter p := by
  obtain ⟨es⟩ := as
  simp only [mapValues, filter, Attributes.mk.injEq]
  induction es with
  | nil => rfl
  | cons e es ih =>
    by_cases hp : p e.1 = true
    · simp [hp, ih, h e.1 e.2 hp]
    · simp [hp, ih]

theorem Attributes.get?_mapValues (f : String → Value → Value) (as : Attributes) (name : String) :
    (as.mapValues f).get? name = (as.get? name).map (f name) := by
  obtain ⟨es⟩ := as
  simp only [mapValues, get?]
  induction es with
  | nil => rfl
  | cons e es ih =>
    obtain ⟨other, value⟩ := e
    simp only [List.map_cons, List.lookup_cons, ih]
    cases h : name == other with
    | true => rw [eq_of_beq h]; rfl
    | false => rfl

theorem Document.paint_eq (d : Document) :
    d.paint = if (d.attribute? "fill").any Value.outlines then .stroke else .fill := by
  unfold paint Value.outlines
  cases d.attribute? "fill" with
  | none => rfl
  | some v => cases hv : v.text? <;> simp [hv]

mutual
theorem Element.visible_mapValues {f : String → Value → Value}
    (h : ∀ name value, isPaint name = false → f name value = value) :
    ∀ e : Element, (e.mapValues f).visible = e.visible
  | ⟨tag, attributes, children, content⟩ => by
    have hn : (mapValuesList f children).isEmpty = children.isEmpty := by cases children <;> rfl
    have hf := Attributes.filter_mapValues (p := fun name => !isPaint name)
      (fun name value hp => h name value (by simpa using hp)) attributes
    simp only [mapValues, visible, hn, hf, visibleList_mapValuesList h children]

theorem Element.visibleList_mapValuesList {f : String → Value → Value}
    (h : ∀ name value, isPaint name = false → f name value = value) :
    ∀ es : List Element, visibleList (mapValuesList f es) = visibleList es
  | [] => rfl
  | e :: es => by
    rw [mapValuesList, visibleList, visibleList, visible_mapValues h e, visibleList_mapValuesList h es]
end

structure Document.SameView (d₁ d₂ : Document) : Prop where
  children : Element.visibleList d₁.children = Element.visibleList d₂.children
  kept : d₁.keptAttributes = d₂.keptAttributes
  paint : d₁.paint = d₂.paint

theorem Document.sameView_edit {root inner : String → Value → Value}
    (hi : ∀ name value, isPaint name = false → inner name value = value)
    (hr : ∀ name value, name ∉ wrapperAttributes → isNamespaceDeclaration name = false →
      root name value = value)
    (hf : ∀ value, (root "fill" value).outlines = value.outlines) (d : Document) (source : String) :
    (d.edit root inner source).SameView d where
  children := Element.visibleList_mapValuesList hi d.children
  kept := by
    apply Attributes.filter_mapValues
    intro name value hp
    simp only [Bool.and_eq_true, Bool.not_eq_true', List.contains_eq_mem, decide_eq_false_iff_not] at hp
    exact hr name value hp.1 hp.2
  paint := by
    simp only [paint_eq, attribute?, edit, Attributes.get?_mapValues, Option.any_map, hf]
    rfl

end Markup

namespace Target

theorem bodyOf_filter (content : Option String) :
    bodyOf [] (content.filter fun s => s ≠ "") = bodyOf [] content := by
  cases content with
  | none => rfl
  | some s => by_cases h : s = "" <;> simp [bodyOf, Option.filter, h]

mutual
theorem element_visible (t : Target) (depth : Nat) : ∀ e : Element, t.element depth e.visible = t.element depth e
  | ⟨tag, attributes, children, content⟩ => by
    simp only [Element.visible, element, Attributes.filter_filter, elements_visibleList t (depth + 1) children]
    cases children with
    | nil => rw [elements, List.isEmpty_nil, if_pos rfl, bodyOf_filter]
    | cons c cs => rfl

theorem elements_visibleList (t : Target) (depth : Nat) :
    ∀ es : List Element, t.elements depth (Element.visibleList es) = t.elements depth es
  | [] => rfl
  | e :: es => by
    rw [Element.visibleList, elements, elements, element_visible t depth e, elements_visibleList t depth es]
end

end Target

namespace Emit

variable {d₁ d₂ : Document} (hk : d₁.keptAttributes = d₂.keptAttributes) (hp : d₁.paint = d₂.paint)
  (c : Component) (children : List String)
include hk hp

theorem React.enclose_congr : React.enclose d₁ c children = React.enclose d₂ c children := by
  unfold React.enclose React.rootAttributes
  rw [hk, hp]

theorem Vue.enclose_congr : Vue.enclose d₁ c children = Vue.enclose d₂ c children := by
  unfold Vue.enclose Vue.rootEntries
  rw [hk, hp]

theorem Svelte.enclose_congr : Svelte.enclose d₁ c children = Svelte.enclose d₂ c children := by
  unfold Svelte.enclose Svelte.markup Svelte.rootAttributes
  rw [hk, hp]

theorem CustomElement.enclose_congr :
    CustomElement.enclose d₁ c children = CustomElement.enclose d₂ c children := by
  unfold CustomElement.enclose CustomElement.assignment CustomElement.rootAttributes
  rw [hk, hp]

end Emit

namespace Target

theorem enclose_congr (t : Target) {d₁ d₂ : Document} (hk : d₁.keptAttributes = d₂.keptAttributes)
    (hp : d₁.paint = d₂.paint) (c : Component) (children : List String) :
    t.enclose d₁ c children = t.enclose d₂ c children := by
  cases t with
  | react => exact React.enclose_congr hk hp c children
  | vue => exact Vue.enclose_congr hk hp c children
  | svelte => exact Svelte.enclose_congr hk hp c children
  | webComponent => exact CustomElement.enclose_congr hk hp c children

theorem sourceText_congr (t : Target) {d₁ d₂ : Document} (h : d₁.SameView d₂) (c : Component) :
    t.sourceText d₁ c = t.sourceText d₂ c := by
  rw [sourceText, sourceText, t.enclose_congr h.kept h.paint, ← elements_visibleList, h.children,
    elements_visibleList]

theorem files_congr (t : Target) {d₁ d₂ : Document} (h : d₁.SameView d₂) (c : Component) (declarations : Bool) :
    t.files d₁ c declarations = t.files d₂ c declarations := by
  rw [files, files, componentFile, componentFile, t.sourceText_congr h]

/-- Documents of which components see the same have the same components. So no paint below the root, no
value that the component sets at the root itself and no source text reaches them, and of the fill of the
root only whether it is `none`. -/
theorem emission_congr (t : Target) (c : Component) (declarations : Bool) :
    (∀ d₁ d₂ : Document, d₁.SameView d₂ →
      t.sourceText d₁ c = t.sourceText d₂ c ∧ t.files d₁ c declarations = t.files d₂ c declarations) ∧
    ∀ (d : Document) (root inner : String → Value → Value) (source : String),
      (∀ name value, isPaint name = false → inner name value = value) →
      (∀ name value, name ∉ wrapperAttributes → isNamespaceDeclaration name = false →
        root name value = value) →
      (∀ value, (root "fill" value).outlines = value.outlines) →
        t.sourceText (d.edit root inner source) c = t.sourceText d c ∧
          t.files (d.edit root inner source) c declarations = t.files d c declarations := by
  have key {d₁ d₂ : Document} (h : d₁.SameView d₂) :
      t.sourceText d₁ c = t.sourceText d₂ c ∧ t.files d₁ c declarations = t.files d₂ c declarations :=
    ⟨t.sourceText_congr h c, t.files_congr h c declarations⟩
  refine ⟨fun d₁ d₂ h => key h, ?_⟩
  intro d root inner source hi hr hf
  exact key (Document.sameView_edit hi hr hf d source)

theorem emission_congr_outline :
    let d₁ : Document := ⟨⟨[("fill", .text " none "), ("class", .text "a"), ("strokeWidth", .text "2")]⟩,
      [⟨"g", ⟨[("fill", .text "red"), ("id", .text "b")]⟩, [⟨"path", ⟨[("d", .text "M0 0")]⟩, [], some ""⟩],
        some "note"⟩], "first"⟩
    let d₂ : Document := ⟨⟨[("strokeWidth", .text "2"), ("fill", .text "none"), ("stroke", .text "blue")]⟩,
      [⟨"g", ⟨[("id", .text "b")]⟩, [⟨"path", ⟨[("d", .text "M0 0"), ("stroke", .text "green")]⟩, [], none⟩],
        none⟩], "second"⟩
    d₁ ≠ d₂ ∧ d₁.SameView d₂ ∧
      Target.vue.files d₁ (.ofName "Clock") true = Target.vue.files d₂ (.ofName "Clock") true := by
  intro d₁ d₂
  have h : d₁.SameView d₂ := ⟨by decide +kernel, by decide +kernel, by decide +kernel⟩
  exact ⟨by decide +kernel, h, ((emission_congr .vue (.ofName "Clock") true).1 d₁ d₂ h).2⟩

end Target

end IconCompiler
