import IconCompiler.Markup.Element

namespace IconCompiler.Markup.Element

mutual
def preorder : Element → List Element
  | ⟨tag, attributes, children, content⟩ =>
    ⟨tag, attributes, children, content⟩ :: preorderList children

def preorderList : List Element → List Element
  | [] => []
  | e :: es => preorder e ++ preorderList es
end

mutual
def height : Element → Nat
  | ⟨_, _, children, _⟩ => 1 + heightList children

def heightList : List Element → Nat
  | [] => 0
  | e :: es => max (height e) (heightList es)
end

theorem preorder_eq (e : Element) : e.preorder = e :: preorderList e.children := by
  cases e
  simp only [preorder]

theorem mem_preorder_self (e : Element) : e ∈ e.preorder := by
  simp [preorder_eq]

theorem preorderList_append (es fs : List Element) :
    preorderList (es ++ fs) = preorderList es ++ preorderList fs := by
  induction es with
  | nil => rfl
  | cons e es ih => simp [preorderList, ih]

theorem mem_preorderList {d : Element} {es : List Element} :
    d ∈ preorderList es ↔ ∃ e ∈ es, d ∈ e.preorder := by
  induction es with
  | nil => simp [preorderList]
  | cons e es ih => simp [preorderList, ih]

mutual
theorem induction {P : Element → Prop} (h : ∀ e : Element, (∀ c ∈ e.children, P c) → P e) :
    ∀ e, P e
  | ⟨_, _, children, _⟩ => h _ (inductionList h children)

theorem inductionList {P : Element → Prop} (h : ∀ e : Element, (∀ c ∈ e.children, P c) → P e) :
    ∀ es : List Element, ∀ c ∈ es, P c
  | [] => by simp
  | e :: es => by
    intro c hc
    rcases List.mem_cons.mp hc with he | hc
    · rw [he]
      exact induction h e
    · exact inductionList h es c hc
end

end IconCompiler.Markup.Element
