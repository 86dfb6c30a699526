import IconCompiler.Digest
import IconCompiler.Markup.Vocabulary

namespace IconCompiler.Markup

structure Element where
  tag : String
  attributes : Attributes
  children : List Element
  content : Option String
  deriving Repr

namespace Element

mutual
def decEq : (a b : Element) → Decidable (a = b)
  | ⟨t, as, cs, s⟩, ⟨u, bs, ds, r⟩ =>
    if h : t = u ∧ as = bs ∧ s = r then
      match decEqList cs ds with
      | isTrue hc => isTrue (by rw [h.1, h.2.1, h.2.2, hc])
      | isFalse hc => isFalse (by intro he; injection he with _ _ he _; exact hc he)
    else isFalse (by intro he; injection he with h₁ h₂ _ h₃; exact h ⟨h₁, h₂, h₃⟩)

def decEqList : (as bs : List Element) → Decidable (as = bs)
  | [], [] => isTrue rfl
  | [], _ :: _ => isFalse (by simp)
  | _ :: _, [] => isFalse (by simp)
  | a :: as, b :: bs =>
    match decEq a b, decEqList as bs with
    | isTrue h, isTrue hs => isTrue (by rw [h, hs])
    | isFalse h, _ => isFalse (by intro he; injection he with he _; exact h he)
    | _, isFalse h => isFalse (by intro he; injection he with _ he; exact h he)
end

instance : DecidableEq Element := decEq

def ofTag (tag : String) : Element := ⟨tag, .empty, [], none⟩

def insertAttribute (e : Element) (name : String) (value : Value) : Element :=
  { e with attributes := e.attributes.insert name value }

def appendChild (e : Element) (child : Element) : Element :=
  { e with children := e.children ++ [child] }

def setContent (e : Element) (content : String) : Element := { e with content := some content }

def attribute? (e : Element) (name : String) : Option Value := e.attributes.get? name

def hasChildren (e : Element) : Bool := !e.children.isEmpty

def text? (e : Element) : Option String := e.content.filter fun s => s ≠ ""

def isVoid (e : Element) : Bool := Markup.isVoid e.tag

mutual
def size : Element → Nat
  | ⟨_, _, children, _⟩ => 1 + sizeList children

def sizeList : List Element → Nat
  | [] => 0
  | e :: es => size e + sizeList es
end

end Element

structure Document where
  attributes : Attributes
  children : List Element
  source : String
  deriving DecidableEq, Repr

namespace Document

def attribute? (d : Document) (name : String) : Option Value := d.attributes.get? name

def viewBox? (d : Document) : Option String := (d.attribute? "viewBox").map Value.display

def isEmpty (d : Document) : Bool := d.children.isEmpty

def size (d : Document) : Nat := Element.sizeList d.children

def digest (d : Document) : UInt64 := Digest.ofText d.source

end Document

end IconCompiler.Markup
