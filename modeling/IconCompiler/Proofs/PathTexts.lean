import IconCompiler.Proofs.LocatedElements
import IconCompiler.Proofs.Scanning

namespace IconCompiler.Markup

open IconCompiler.Text

namespace Step

def body (s : Step) : List Char := s.tag.toList ++ '[' :: (Nat.toDigits 10 s.index ++ [']'])

theorem toList_text (s : Step) : s.text.toList = '/' :: s.body := by
  simp [text, body]

theorem slash_not_mem_body {s : Step} (h : '/' ∉ s.tag.toList) : '/' ∉ s.body := by
  have hd : '/' ∉ Nat.toDigits 10 s.index := fun hm =>
    absurd (Nat.isDigit_of_mem_toDigits (by decide) (by decide) hm) (by decide)
  simp [body, h, hd]

theorem body_injective : Function.Injective body := by
  intro s t h
  have hdigits (n : Nat) : ∀ c ∈ (Nat.toDigits 10 n).reverse, c.isDigit = true := fun c hc =>
    Nat.isDigit_of_mem_toDigits (by decide) (by decide) (List.mem_reverse.mp hc)
  -- The tag may have brackets of its own, so a step is read from its end: a bracket, digits, a bracket, the tag.
  have hback := congrArg List.reverse h
  simp only [body, List.reverse_append, List.reverse_cons, List.reverse_nil, List.nil_append, List.append_assoc,
    List.cons_append, List.cons.injEq, true_and] at hback
  obtain ⟨hindex, htag⟩ := append_inj_of_all (hdigits s.index) (hdigits t.index) (by simp) (by simp) hback
  have hi : s.index = t.index := by
    rw [← Nat.ofDigitChars_ten_toDigits (n := s.index), List.reverse_inj.mp hindex, Nat.ofDigitChars_ten_toDigits]
  have ht : s.tag = t.tag := String.toList_inj.mp (List.reverse_inj.mp (List.cons.inj htag).2)
  cases s
  cases t
  congr

end Step

def Path.Slashless (p : Path) : Prop := ∀ s ∈ p.steps, '/' ∉ s.tag.toList

theorem Path.toList_text (p : Path) : p.text.toList = "svg".toList ++ p.steps.flatMap fun s => '/' :: s.body := by
  rw [text, String.toList_append, String.toList_join, List.flatMap_map]
  simp only [Step.toList_text]

theorem head?_flatMap_body (steps : List Step) :
    ∀ c ∈ (steps.flatMap fun s => '/' :: s.body).head?, (c != '/') = false := by
  cases steps <;> simp

theorem flatMap_body_inj {ss ts : List Step} (hs : ∀ s ∈ ss, '/' ∉ s.tag.toList) (ht : ∀ t ∈ ts, '/' ∉ t.tag.toList)
    (h : (ss.flatMap fun s => '/' :: s.body) = ts.flatMap fun s => '/' :: s.body) : ss = ts := by
  have hbody {s : Step} (h : '/' ∉ s.tag.toList) : ∀ c ∈ s.body, (c != '/') = true := fun c hc =>
    bne_iff_ne.mpr (ne_of_mem_of_not_mem hc (Step.slash_not_mem_body h))
  induction ss generalizing ts with
  | nil =>
    cases ts with
    | nil => rfl
    | cons t ts => cases h
  | cons s ss ih =>
    cases ts with
    | nil => cases h
    | cons t ts =>
      obtain ⟨hs, hss⟩ := List.forall_mem_cons.mp hs
      obtain ⟨ht, hts⟩ := List.forall_mem_cons.mp ht
      simp only [List.flatMap_cons, List.cons_append, List.cons.injEq, true_and] at h
      obtain ⟨hst, hrest⟩ := append_inj_of_all (hbody hs) (hbody ht) (head?_flatMap_body ss) (head?_flatMap_body ts) h
      rw [Step.body_injective hst, ih hss hts hrest]

theorem Path.eq_of_text_eq {p q : Path} (hp : p.Slashless) (hq : q.Slashless) (h : p.text = q.text) : p = q := by
  rw [← String.toList_inj, toList_text, toList_text] at h
  have hsteps := flatMap_body_inj hp hq (List.append_cancel_left h)
  cases p
  cases q
  congr

theorem Leads.exists_tag {e f : Element} {steps : List Step} (h : Leads e steps f) :
    ∀ s ∈ steps, ∃ c ∈ e.preorder, c.tag = s.tag := by
  induction h with
  | here e => simp
  | @child e c f i steps hc hl ih =>
    have hbelow {d : Element} (hd : d ∈ c.preorder) : d ∈ e.preorder := by
      rw [Element.preorder_eq e]
      exact List.mem_cons_of_mem _ (Element.mem_preorderList.mpr ⟨c, List.mem_of_getElem? hc, hd⟩)
    intro s hs
    rcases List.mem_cons.mp hs with rfl | hs
    · exact ⟨c, hbelow c.mem_preorder_self, rfl⟩
    · obtain ⟨d, hd, ht⟩ := ih s hs
      exact ⟨d, hbelow hd, ht⟩

theorem Leads.exists_child {e f : Element} {s : Step} {steps : List Step} (h : Leads e (s :: steps) f) :
    ∃ c, e.children[s.index]? = some c ∧ Leads c steps f := by
  cases h with
  | @child _ c _ i _ hc hl => exact ⟨c, hc, hl⟩

theorem Leads.unique {e f g : Element} {steps : List Step} (hf : Leads e steps f) (hg : Leads e steps g) : f = g := by
  induction hf with
  | here e =>
    cases hg
    rfl
  | @child e c f i steps hc hl ih =>
    obtain ⟨d, hd, hl'⟩ := hg.exists_child
    obtain rfl : c = d := Option.some.inj (hc.symm.trans hd)
    exact ih hl'

namespace Document

theorem mem_located_iff (d : Document) (p : Path) (e : Element) : (p, e) ∈ d.located ↔ d.Leads p e := by
  have h := Element.mem_locatedList_iff .root 0 d.children p e
  simp only [Nat.zero_add] at h
  exact h

theorem Leads.unique {d : Document} {p : Path} {e f : Element} (he : d.Leads p e) (hf : d.Leads p f) : e = f := by
  obtain ⟨i, c, ss, hc, hp, he⟩ := he
  obtain ⟨j, b, ts, hb, hq, hf⟩ := hf
  obtain ⟨hstep, rfl⟩ := List.cons.inj (hp.symm.trans hq)
  obtain rfl : i = j := congrArg Step.index hstep
  obtain rfl : c = b := Option.some.inj (hc.symm.trans hb)
  exact he.unique hf

def Slashless (d : Document) : Prop := ∀ e ∈ Element.preorderList d.children, '/' ∉ e.tag.toList

theorem Leads.slashless {d : Document} {p : Path} {e : Element} (h : d.Leads p e) (hd : d.Slashless) :
    p.Slashless := by
  obtain ⟨i, c, steps, hc, hp, hl⟩ := h
  have htag {b : Element} (hb : b ∈ c.preorder) : '/' ∉ b.tag.toList :=
    hd b (Element.mem_preorderList.mpr ⟨c, List.mem_of_getElem? hc, hb⟩)
  intro s hs
  rw [hp] at hs
  rcases List.mem_cons.mp hs with rfl | hs
  · exact htag c.mem_preorder_self
  · obtain ⟨b, hb, ht⟩ := hl.exists_tag s hs
    rw [← ht]
    exact htag hb

theorem nodup_located_texts {d : Document} (hd : d.Slashless) : (d.located.map fun x => x.1.text).Nodup := by
  rw [List.Nodup, List.pairwise_map]
  refine (Element.pairwise_locatedList .root 0 d.children).imp_of_mem ?_
  intro x y hx hy hlex htext
  have hxy := Path.eq_of_text_eq (((d.mem_located_iff _ _).mp hx).slashless hd)
    (((d.mem_located_iff _ _).mp hy).slashless hd) htext
  rw [hxy] at hlex
  exact irrefl _ hlex

end Document

def Warning.path? : Warning → Option Path
  | .missingViewBox => none
  | .unrecognized _ path => some path
  | .childrenAndText _ path => some path

theorem Element.path?_of_mem_warnings {e : Element} {p : Path} {w : Warning} (h : w ∈ e.warnings p) :
    w.path? = some p := by
  rw [warnings, List.mem_append] at h
  rcases h with h | h
  · split at h
    · cases h
    · rw [List.mem_singleton.mp h]
      rfl
  · split at h
    · rw [List.mem_singleton.mp h]
      rfl
    · cases h

theorem Document.leads_of_mem_warnings {d : Document} {w : Warning} {p : Path} (hw : w ∈ d.review.warnings)
    (hp : w.path? = some p) : ∃ e, d.Leads p e ∧ w ∈ e.warnings p := by
  simp only [d.review_eq, Report.append, Report.ofLocated, List.mem_append, List.mem_flatMap, List.mem_filter] at hw
  rcases hw with hw | ⟨⟨q, e⟩, ⟨hx, -⟩, hw⟩
  · split at hw
    · rw [List.mem_singleton.mp hw] at hp
      cases hp
    · cases hw
  · obtain rfl : q = p := Option.some.inj ((Element.path?_of_mem_warnings hw).symm.trans hp)
    exact ⟨e, (d.mem_located_iff _ _).mp hx, hw⟩

/-- Paths without a slash in their tags have different texts. In a tree with such tags no two elements have one path
text, and a warning with a path is about the only element that has the text of this path. -/
theorem Path.text_identifies :
    (∀ p q : Path, p.Slashless → q.Slashless → p.text = q.text → p = q) ∧
      ∀ d : Document, d.Slashless →
        (d.located.map fun x => x.1.text).Nodup ∧
          ∀ w ∈ d.review.warnings, ∀ p, w.path? = some p → ∃ e, d.Leads p e ∧ w ∈ e.warnings p ∧
            ∀ q f, d.Leads q f → q.text = p.text → q = p ∧ f = e := by
  refine ⟨fun p q hp hq h => eq_of_text_eq hp hq h, fun d hd => ⟨Document.nodup_located_texts hd, ?_⟩⟩
  intro w hw p hp
  obtain ⟨e, he, hwarn⟩ := Document.leads_of_mem_warnings hw hp
  refine ⟨e, he, hwarn, ?_⟩
  intro q f hf htext
  obtain rfl := eq_of_text_eq (hf.slashless hd) (he.slashless hd) htext
  exact ⟨rfl, hf.unique he⟩

theorem Path.text_identifies_brackets :
    let d : Document := ⟨.empty, [.ofTag "a[1]", ⟨"a", .empty, [.ofTag "[0"], none⟩], ""⟩
    let p : Path := ⟨[⟨"a", 1⟩, ⟨"[0", 0⟩]⟩
    d.Slashless ∧ p.text = "svg/a[1]/[0[0]" ∧ .unrecognized "[0" p ∈ d.review.warnings ∧
      ∃ e, d.Leads p e ∧ ∀ q f, d.Leads q f → q.text = p.text → q = p ∧ f = e := by
  intro d p
  have hd : d.Slashless := by
    simp only [d, Document.Slashless, Element.preorderList, Element.preorder, Element.ofTag, List.cons_append,
      List.nil_append, List.append_nil, List.forall_mem_cons]
    exact ⟨by decide, by decide, by decide, nofun⟩
  have hw : .unrecognized "[0" p ∈ d.review.warnings := by decide +kernel
  obtain ⟨e, he, -, honly⟩ := (text_identifies.2 d hd).2 _ hw p rfl
  exact ⟨hd, by decide +kernel, hw, e, he, honly⟩

/-- With a slash in a tag two paths can have one text. -/
example : Path.text ⟨[⟨"a[0]/b", 1⟩]⟩ = Path.text ⟨[⟨"a", 0⟩, ⟨"b", 1⟩]⟩ := by
  decide +kernel

end IconCompiler.Markup
