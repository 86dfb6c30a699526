import IconCompiler.Proofs.Scanning
import IconCompiler.Script.Literal

namespace IconCompiler

namespace Script

def hexValue? (c : Char) : Option Nat :=
  if c.isDigit then some (c.toNat - '0'.toNat)
  else if 'a' ≤ c ∧ c ≤ 'f' then some (c.toNat - 'a'.toNat + 10)
  else if 'A' ≤ c ∧ c ≤ 'F' then some (c.toNat - 'A'.toNat + 10)
  else none

def charOfHex? (ds : List Char) : Option Char :=
  (ds.mapM hexValue?).bind fun ns =>
    let n := ns.foldl (fun n d => 16 * n + d) 0
    if n.isValidChar then some (Char.ofNat n) else none

def escaped? : Char → Option Char
  | '\\' => some '\\'
  | '\x27' => some '\x27'
  | 'n' => some '\n'
  | 'r' => some '\r'
  | _ => none

def endsLine (c : Char) : Bool := c == '\n' || c == '\r' || c == '\u2028' || c == '\u2029'

def readInside? : List Char → Option (List Char × List Char)
  | [] => none
  | '\x27' :: rest => some ([], rest)
  | '\\' :: 'u' :: a :: b :: c :: d :: rest =>
    (charOfHex? [a, b, c, d]).bind fun x => (readInside? rest).map fun r => (x :: r.1, r.2)
  | '\\' :: c :: rest => (escaped? c).bind fun x => (readInside? rest).map fun r => (x :: r.1, r.2)
  | c :: rest => if endsLine c then none else (readInside? rest).map fun r => (c :: r.1, r.2)

def readQuoted? : List Char → Option (String × List Char)
  | '\x27' :: rest => (readInside? rest).map fun r => (String.ofList r.1, r.2)
  | _ => none

inductive Denotes : List Char → List Char → Prop
  | nil : Denotes [] []
  | plain {c : Char} (hq : c ≠ '\x27') (hs : c ≠ '\\') (hl : endsLine c = false) {raw text : List Char}
      (h : Denotes raw text) : Denotes (c :: raw) (c :: text)
  | escape {c x : Char} (hc : escaped? c = some x) {raw text : List Char} (h : Denotes raw text) :
      Denotes ('\\' :: c :: raw) (x :: text)
  | code {a b c d x : Char} (hx : charOfHex? [a, b, c, d] = some x) {raw text : List Char} (h : Denotes raw text) :
      Denotes ('\\' :: 'u' :: a :: b :: c :: d :: raw) (x :: text)

def IsQuoted (literal : List Char) (value : String) : Prop :=
  ∃ raw, literal = '\x27' :: (raw ++ ['\x27']) ∧ Denotes raw value.toList

theorem readInside?_quotedChar (c : Char) (rest : List Char) :
    readInside? (quotedChar c ++ rest) = (readInside? rest).map fun r => (c :: r.1, r.2) := by
  unfold quotedChar
  split_ifs with h₁ h₂ h₃ h₄ h₅ h₆
  · subst h₁; rfl
  · subst h₂; rfl
  · subst h₃; rfl
  · subst h₄; rfl
  · subst h₅; rfl
  · subst h₆; rfl
  · have he : endsLine c = false := by simp [endsLine, h₃, h₄, h₅, h₆]
    simp [readInside?, h₁, he]

theorem readInside?_flatMap (cs rest : List Char) :
    readInside? (cs.flatMap quotedChar ++ '\x27' :: rest) = some (cs, rest) := by
  induction cs with
  | nil => rfl
  | cons c cs ih => rw [List.flatMap_cons, List.append_assoc, readInside?_quotedChar, ih, Option.map_some]

theorem toList_quoted (s : String) : (quoted s).toList = '\x27' :: (s.toList.flatMap quotedChar ++ ['\x27']) := by
  simp [quoted]

theorem newline_not_mem_quoted (s : String) : '\n' ∉ (quoted s).toList := by
  have hc : ∀ c, '\n' ∉ quotedChar c := by
    intro c
    unfold quotedChar
    split_ifs with h₁ h₂ h₃ <;> simp
    exact Ne.symm h₃
  simp [toList_quoted, hc]

theorem readQuoted?_append (s : String) (rest : List Char) :
    readQuoted? ((quoted s).toList ++ rest) = some (s, rest) := by
  rw [toList_quoted, List.cons_append, List.append_assoc, List.singleton_append]
  simp [readQuoted?, readInside?_flatMap]

theorem quoted_append_inj {s t : String} {r r' : List Char}
    (h : (quoted s).toList ++ r = (quoted t).toList ++ r') : s = t ∧ r = r' := by
  have hs := readQuoted?_append s r
  rw [h, readQuoted?_append] at hs
  simpa [eq_comm] using hs

theorem Denotes.readInside? {raw text : List Char} (h : Denotes raw text) (rest : List Char) :
    readInside? (raw ++ '\x27' :: rest) = some (text, rest) := by
  induction h with
  | nil => rfl
  | plain hq hs hl _ ih => simp [Script.readInside?, hs, hl, ih]
  | @escape c x hc raw text _ ih =>
    have hu : c ≠ 'u' := by
      rintro rfl
      cases hc
    simp [Script.readInside?, hu, hc, ih]
  | code hx _ ih => simp [Script.readInside?, hx, ih]

theorem exists_of_bind_map {x? : Option Char} {r? : Option (List Char × List Char)} {text rest : List Char}
    (h : (x?.bind fun x => r?.map fun r => (x :: r.1, r.2)) = some (text, rest)) :
    ∃ x tail, x? = some x ∧ r? = some (tail, rest) ∧ text = x :: tail := by
  obtain ⟨x, hx, h⟩ := Option.bind_eq_some_iff.mp h
  obtain ⟨⟨tail, _⟩, hr, he⟩ := Option.map_eq_some_iff.mp h
  cases he
  exact ⟨x, tail, hx, hr, rfl⟩

theorem exists_denotes_of_readInside? {cs text rest : List Char} (h : readInside? cs = some (text, rest)) :
    ∃ raw, cs = raw ++ '\x27' :: rest ∧ Denotes raw text := by
  fun_induction readInside? cs generalizing text with
  | case1 => cases h
  | case2 after =>
    cases h
    exact ⟨[], rfl, .nil⟩
  | case3 a b c d after ih =>
    obtain ⟨x, tail, hx, hr, rfl⟩ := exists_of_bind_map h
    obtain ⟨raw, rfl, hd⟩ := ih hr
    exact ⟨_, rfl, .code hx hd⟩
  | case4 c after hc ih =>
    obtain ⟨x, tail, hx, hr, rfl⟩ := exists_of_bind_map h
    obtain ⟨raw, rfl, hd⟩ := ih hr
    exact ⟨_, rfl, .escape hx hd⟩
  | case5 => cases h
  | case6 c after hq hu hs hl ih =>
    obtain ⟨⟨tail, _⟩, hr, he⟩ := Option.map_eq_some_iff.mp h
    cases he
    obtain ⟨raw, ha, hd⟩ := ih hr
    -- A backslash would have something after it, the closing quote at least.
    have hb : c ≠ '\\' := by
      intro hb
      obtain ⟨d, ds, hds⟩ := List.exists_cons_of_ne_nil (show after ≠ [] by simp [ha])
      exact hs d ds hb hds
    exact ⟨c :: raw, congrArg (c :: ·) ha, .plain hq hb (by simpa using hl) hd⟩

theorem readQuoted?_eq_some_iff {cs rest : List Char} {value : String} :
    readQuoted? cs = some (value, rest) ↔ ∃ literal, IsQuoted literal value ∧ cs = literal ++ rest := by
  constructor
  · intro h
    unfold readQuoted? at h
    split at h
    · next inside =>
      obtain ⟨⟨text, after⟩, hr, he⟩ := Option.map_eq_some_iff.mp h
      cases he
      obtain ⟨raw, rfl, hd⟩ := exists_denotes_of_readInside? hr
      exact ⟨'\x27' :: (raw ++ ['\x27']), ⟨raw, rfl, by rwa [String.toList_ofList]⟩, by simp⟩
    · cases h
  · rintro ⟨literal, ⟨raw, rfl, hd⟩, rfl⟩
    have hr := hd.readInside? rest
    simp [readQuoted?, hr]

theorem isQuoted_quoted (s : String) : IsQuoted (quoted s).toList s := by
  obtain ⟨literal, hl, he⟩ := readQuoted?_eq_some_iff.mp (readQuoted?_append s [])
  rwa [List.append_cancel_right he]

theorem quoted_selfDelimiting (s : String) (rest : List Char) :
    readQuoted? ((quoted s).toList ++ rest) = some (s, rest) ∧
      ∀ literal value after, IsQuoted literal value ∧ literal ++ after = (quoted s).toList ++ rest ↔
        literal = (quoted s).toList ∧ value = s ∧ after = rest := by
  have hread := readQuoted?_append s rest
  refine ⟨hread, fun literal value after => ⟨?_, ?_⟩⟩
  · rintro ⟨hl, he⟩
    have hother := readQuoted?_eq_some_iff.mpr ⟨literal, hl, he.symm⟩
    rw [hread] at hother
    cases hother
    exact ⟨List.append_cancel_right he, rfl, rfl⟩
  · rintro ⟨rfl, rfl, rfl⟩
    obtain ⟨literal, hl, he⟩ := readQuoted?_eq_some_iff.mp hread
    rw [List.append_cancel_right he]
    exact ⟨hl, rfl⟩

theorem isIdentifierPart_of_isIdentifier {s : String} (h : isIdentifier s = true) :
    ∀ c ∈ s.toList, isIdentifierPart c = true := by
  unfold isIdentifier at h
  cases hs : s.toList with
  | nil => simp
  | cons d ds =>
    simp only [hs, Bool.and_eq_true, List.all_eq_true] at h
    have hd : isIdentifierPart d = true := by
      simp only [isIdentifierStart, isIdentifierPart, Char.isAlphanum, Bool.or_eq_true] at *
      tauto
    simpa [hd] using h.2

theorem ne_quoted_append {cs r : List Char} (hc : '\x27' ∉ cs) (hr : '\x27' ∉ r.head?) (t : String)
    (r' : List Char) : cs ++ r ≠ (quoted t).toList ++ r' := by
  intro h
  rw [toList_quoted] at h
  have hh : (cs ++ r).head? = some '\x27' := by rw [h]; rfl
  cases cs with
  | nil => exact hr hh
  | cons c cs => exact hc (by simpa [eq_comm] using Or.inl hh)

theorem objectKey_append_inj {s t : String} {r r' : List Char}
    (h : (objectKey s).toList ++ ':' :: r = (objectKey t).toList ++ ':' :: r') : s = t ∧ r = r' := by
  unfold objectKey at h
  have hq {s : String} (hs : isIdentifier s = true) : '\x27' ∉ s.toList :=
    fun hm => absurd (isIdentifierPart_of_isIdentifier hs _ hm) (by decide)
  split_ifs at h with hs ht ht
  · obtain ⟨hst, hr⟩ := Text.append_inj_of_all (isIdentifierPart_of_isIdentifier hs)
      (isIdentifierPart_of_isIdentifier ht) (by simp; decide) (by simp; decide) h
    exact ⟨String.toList_inj.mp hst, (List.cons.inj hr).2⟩
  · exact absurd h (ne_quoted_append (hq hs) (by simp) _ _)
  · exact absurd h.symm (ne_quoted_append (hq ht) (by simp) _ _)
  · obtain ⟨hst, hr⟩ := quoted_append_inj h
    exact ⟨hst, (List.cons.inj hr).2⟩

end Script

end IconCompiler
