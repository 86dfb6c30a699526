import Mathlib.Data.List.Find
import IconCompiler.Proofs.AsciiWords
import IconCompiler.Proofs.FileCollisions
import IconCompiler.Proofs.Names
import IconCompiler.Proofs.ScriptModules
import IconCompiler.Proofs.TaggedText

/-!
The tags of custom elements. A tag tells the words of a component's name, but neither the case of their
letters nor whether a second word `icon` belongs to the name or was added to make a hyphen.
-/

namespace IconCompiler

open IconCompiler.Emit IconCompiler.Markup IconCompiler.Script IconCompiler.Text

namespace Text

theorem mem_of_mem_splitWords {before : Shape} {word : List Char} {gs : List (List Char)} {w : List Char}
    {c : Char} (hw : w ∈ splitWords before word gs) (hc : c ∈ w) : c ∈ word ∨ c ∈ gs.flatten := by
  induction gs generalizing before word with
  | nil =>
    rw [splitWords, List.mem_singleton] at hw
    exact .inl (hw ▸ hc)
  | cons g gs ih =>
    rw [List.flatten_cons, List.mem_append]
    unfold splitWords at hw
    split_ifs at hw with hs hb
    · rcases List.mem_cons.mp hw with rfl | hw
      · exact .inl hc
      · rcases ih hw with hm | hm
        · cases hm
        · exact .inr (.inr hm)
    · rcases List.mem_cons.mp hw with rfl | hw
      · exact .inl hc
      · exact .inr (ih hw)
    · rcases ih hw with hm | hm
      · rcases List.mem_append.mp hm with hm | hm
        · exact .inl hm
        · exact .inr (.inl hm)
      · exact .inr (.inr hm)

theorem mem_of_mem_words {s : String} {w : List Char} {c : Char} (hw : w ∈ words s) (hc : c ∈ w) :
    c ∈ s.toList := by
  have hm := mem_of_mem_splitWords (List.mem_of_mem_filter hw) hc
  rw [clusters_flatten] at hm
  exact hm.resolve_left (List.not_mem_nil)

theorem splitParts_intercalate {p : Char → Bool} {d : Char} (hd : p d = true) {ws : List (List Char)}
    (hn : ws ≠ []) (h : ∀ w ∈ ws, ∀ c ∈ w, p c = false) : splitParts p ([d].intercalate ws) = ws := by
  induction ws with
  | nil => exact absurd rfl hn
  | cons w ws ih =>
    rw [List.forall_mem_cons] at h
    cases ws with
    | nil =>
      rw [List.intercalate_singleton]
      exact splitParts_eq_self h.1
    | cons v ws =>
      rw [List.intercalate_cons_cons, List.append_assoc, List.singleton_append, splitParts_append_cons hd,
        splitParts_eq_self h.1, ih (List.cons_ne_nil v ws) h.2]
      rfl

end Text

def tagWords (name : String) : List (List Char) :=
  match (words name).map lowerAscii with
  | [] => [[], "icon".toList]
  | [w] => [w, "icon".toList]
  | ws => ws

section

variable {name : String} (h : isIdentifier name = true)
include h

theorem isIdentifierPart_of_mem_words {w : List Char} (hw : w ∈ words name) :
    ∀ c ∈ w, isIdentifierPart c = true :=
  fun c hc => isIdentifierPart_of_isIdentifier h c (mem_of_mem_words hw hc)

theorem toList_kebabCase : (kebabCase name).toList = ['-'].intercalate ((words name).map lowerAscii) := by
  rw [kebabCase, String.toList_intercalate, List.map_map]
  congr 1
  apply List.map_congr_left
  intro w hw
  rw [Function.comp_apply, String.toList_ofList, lower_eq_lowerAscii]
  intro c hc
  exact isIdentifierPart_bounds (isIdentifierPart_of_mem_words h hw c hc)

theorem hyphen_not_mem_lowerAscii {w : List Char} (hw : w ∈ (words name).map lowerAscii) : '-' ∉ w := by
  obtain ⟨v, hv, rfl⟩ := List.mem_map.mp hw
  intro hm
  obtain ⟨c, hc, he⟩ := List.mem_map.mp hm
  obtain rfl := eq_of_toLower_eq (by decide) he
  exact absurd (isIdentifierPart_of_mem_words h hv _ hc) (by decide)

theorem hyphen_not_mem_tagWords {w : List Char} (hw : w ∈ tagWords name) : '-' ∉ w := by
  have hall : ∀ v ∈ (words name).map lowerAscii, '-' ∉ v := fun v => hyphen_not_mem_lowerAscii h
  have hicon : '-' ∉ "icon".toList := by decide
  unfold tagWords at hw
  split at hw
  · rcases List.mem_pair.mp hw with rfl | rfl
    · exact List.not_mem_nil
    · exact hicon
  · next v hv =>
    rcases List.mem_pair.mp hw with rfl | rfl
    · exact hall _ (by simp [hv])
    · exact hicon
  · exact hall w hw

theorem toList_customTag {c : Component} (hc : c.name = name) :
    c.customTag.toList = ['-'].intercalate (tagWords name) := by
  have hk := toList_kebabCase h
  have hall : ∀ v ∈ (words name).map lowerAscii, '-' ∉ v := fun v => hyphen_not_mem_lowerAscii h
  unfold Component.customTag tagWords
  rw [hc]
  dsimp only
  rw [hk]
  match hws : (words name).map lowerAscii with
  | [] =>
    rw [hws] at hk
    simp [hk]
  | [w] =>
    rw [hws] at hk hall
    simp [hk, hall w]
  | w :: v :: ws =>
    rw [hws] at hk
    simp [hk, List.intercalate_cons_cons]

end

theorem tagWords_ne_nil (name : String) : tagWords name ≠ [] := by
  unfold tagWords
  split
  · exact List.cons_ne_nil _ _
  · exact List.cons_ne_nil _ _
  · next h _ => exact h

def IconOutput.customTag (o : IconOutput) : String := (Component.ofName o.componentName).customTag

theorem customTag_eq_iff_tagWords {a b : IconOutput} (ha : isIdentifier a.componentName = true)
    (hb : isIdentifier b.componentName = true) :
    a.customTag = b.customTag ↔ tagWords a.componentName = tagWords b.componentName := by
  have hta : a.customTag.toList = ['-'].intercalate (tagWords a.componentName) := toList_customTag ha rfl
  have htb : b.customTag.toList = ['-'].intercalate (tagWords b.componentName) := toList_customTag hb rfl
  have hsplit {name : String} (h : isIdentifier name = true) :
      splitParts (fun c => c == '-') (['-'].intercalate (tagWords name)) = tagWords name := by
    refine splitParts_intercalate rfl (tagWords_ne_nil name) fun w hw c hc => ?_
    rw [beq_eq_false_iff_ne]
    rintro rfl
    exact hyphen_not_mem_tagWords h hw hc
  rw [← String.toList_inj, hta, htb]
  constructor
  · intro h
    rw [← hsplit ha, h, hsplit hb]
  · intro h
    rw [h]

/-- What a component relies on in the page that loads it: to define a tag binds this tag to the given class, or nothing
if the page refuses the tag. -/
structure Registry (Page : Type) where
  get? : Page → (tag : String) → Option String
  define : Page → (tag name : String) → Page
  get?_define : ∀ page tag name other, get? (define page tag name) other = get? page other ∨
    other = tag ∧ get? (define page tag name) other = some name

namespace Registry

variable {Page : Type} (r : Registry Page)

def load (page : Page) (o : IconOutput) : Page :=
  if (r.get? page o.customTag).isNone then r.define page o.customTag o.componentName else page

theorem get?_load (page : Page) (o : IconOutput) (tag : String) :
    r.get? (r.load page o) tag = r.get? page tag ∨
      o.customTag = tag ∧ r.get? (r.load page o) tag = some o.componentName := by
  unfold load
  split
  · obtain h | ⟨rfl, h⟩ := r.get?_define page o.customTag o.componentName tag
    · exact .inl h
    · exact .inr ⟨rfl, h⟩
  · exact .inl rfl

theorem get?_foldl_load (page : Page) (os : List IconOutput) (tag : String) :
    r.get? (os.foldl r.load page) tag = r.get? page tag ∨
      ∃ o ∈ os, o.customTag = tag ∧ r.get? (os.foldl r.load page) tag = some o.componentName := by
  induction os generalizing page with
  | nil => exact .inl rfl
  | cons o os ih =>
    rw [List.foldl_cons]
    obtain h | ⟨b, hb, ht, h⟩ := ih (r.load page o)
    · rw [h]
      obtain h | ⟨ht, h⟩ := r.get?_load page o tag
      · exact .inl h
      · exact .inr ⟨o, List.mem_cons_self, ht, h⟩
    · exact .inr ⟨b, List.mem_cons_of_mem o hb, ht, h⟩

end Registry

def guardText (tag name : String) : String :=
  lines ["if (!customElements.get(" ++ quoted tag ++ ")) \x7b",
    "  customElements.define(" ++ quoted tag ++ ", " ++ name ++ ");",
    "\x7d",
    "",
    "export default " ++ name ++ ";",
    ""]

theorem exists_guardText (doc : Document) (c : Component) :
    ∃ before, Target.webComponent.sourceText doc c = before ++ "\n" ++ guardText c.customTag c.name := by
  change ∃ before, CustomElement.enclose doc c _ = _
  unfold CustomElement.enclose
  rw [List.append_assoc]
  exact ⟨_, String.intercalate_append_of_ne_nil (by simp) (by simp [CustomElement.registration])⟩

/-- The tags of two compiled icons are equal exactly if the names of their components have the same words, a
word `icon` being added to a name with fewer than two. Every component defines its own tag unless it is taken, so
that a page which loads components of the batch binds a tag to none but those with these words. -/
theorem compileAll_customTags {c : Config} (hw : .webComponent ∈ c.targets) {icons : List Icon} {a : IconOutput}
    (ha : a ∈ (c.compileAll icons).icons) :
    (∃ f ∈ a.files, f.target = some .webComponent ∧ f.kind = .component ∧
        ∃ before, f.content = before ++ "\n" ++ guardText a.customTag a.componentName) ∧
      (∀ b ∈ (c.compileAll icons).icons,
        a.customTag = b.customTag ↔ tagWords a.componentName = tagWords b.componentName) ∧
      ∀ (Page : Type) (r : Registry Page) (page : Page) (loaded : List IconOutput),
        (∀ b ∈ loaded, b ∈ (c.compileAll icons).icons) →
          r.get? (loaded.foldl r.load page) a.customTag = r.get? page a.customTag ∨
            ∃ b ∈ loaded, tagWords b.componentName = tagWords a.componentName ∧
              r.get? (loaded.foldl r.load page) a.customTag = some b.componentName := by
  have hid : ∀ b ∈ (c.compileAll icons).icons, isIdentifier b.componentName = true := by
    intro b hb
    obtain ⟨icon, -, hc⟩ := mem_icons_compileAll.mp hb
    exact isIdentifier_of_compile hc
  refine ⟨?_, fun b hb => customTag_eq_iff_tagWords (hid a ha) (hid b hb), ?_⟩
  · obtain ⟨icon, -, hc⟩ := mem_icons_compileAll.mp ha
    obtain ⟨hn, doc, hf⟩ := exists_componentFile_mem_files hc hw
    obtain ⟨before, hbefore⟩ := exists_guardText doc (c.component icon.name doc)
    refine ⟨_, hf, rfl, rfl, before, ?_⟩
    rw [IconOutput.customTag, hn]
    exact hbefore
  · intro Page r page loaded hloaded
    obtain h | ⟨b, hb, ht, h⟩ := r.get?_foldl_load page loaded a.customTag
    · exact .inl h
    · exact .inr ⟨b, hb, (customTag_eq_iff_tagWords (hid b (hloaded b hb)) (hid a ha)).mp ht, h⟩

theorem exists_mem_icons (c : Config) (icons : List Icon) {name component : String}
    (hi : ⟨name, "<svg></svg>"⟩ ∈ icons) (hn : c.naming.resolved name = component)
    (hid : isIdentifier component = true) :
    ∃ out ∈ (c.compileAll icons).icons, out.componentName = component := by
  exact ⟨_, mem_icons_compileAll.mpr ⟨_, hi, compile_of_isIdentifier read_blank (by rw [hn]; exact hid)⟩, hn⟩

theorem exists_x_icons (c : Config) (icons : List Icon) (hc : c.naming = Config.standard.naming)
    (hx : ⟨"x", "<svg></svg>"⟩ ∈ icons) (hi : ⟨"x-icon", "<svg></svg>"⟩ ∈ icons) :
    ∃ a ∈ (c.compileAll icons).icons, ∃ b ∈ (c.compileAll icons).icons,
      a.componentName = "X" ∧ b.componentName = "XIcon" := by
  have hxn : c.naming.resolved "x" = "X" := by
    rw [hc]
    decide +kernel
  have hin : c.naming.resolved "x-icon" = "XIcon" := by
    rw [hc]
    decide +kernel
  obtain ⟨a, ha, han⟩ := exists_mem_icons c icons hx hxn (by decide)
  obtain ⟨b, hb, hbn⟩ := exists_mem_icons c icons hi hin (by decide)
  exact ⟨a, ha, b, hb, han, hbn⟩

theorem tagWords_x : tagWords "X" = [['x'], "icon".toList] ∧ tagWords "XIcon" = [['x'], "icon".toList] := by
  decide +kernel

def Registry.ofEntries : Registry (List (String × String)) where
  get? page tag := page.lookup tag
  define page tag name := page ++ [(tag, name)]
  get?_define page tag name other := by
    rw [List.lookup_append, List.lookup_cons, List.lookup_nil]
    by_cases h : other = tag
    · subst h
      cases page.lookup other <;> simp
    · have hne : (other == tag) = false := beq_false_of_ne h
      simp [hne]

theorem compileAll_customTags_three :
    let c : Config := { Config.standard with targets := [.webComponent] }
    let icons : List Icon := ["x", "x-icon", "y"].map fun name => ⟨name, "<svg></svg>"⟩
    ∃ x xIcon y, [x, xIcon, y].map IconOutput.componentName = ["X", "XIcon", "Y"] ∧
      (∀ out ∈ [x, xIcon, y], out ∈ (c.compileAll icons).icons) ∧
      x.customTag = xIcon.customTag ∧ x.customTag ≠ y.customTag ∧
      Registry.ofEntries.get? ([x, xIcon, y].foldl Registry.ofEntries.load []) y.customTag ∈ [none, some "Y"] := by
  intro c icons
  have hname : c.naming.resolved "y" = "Y" := by decide +kernel
  have hwords : tagWords "Y" = [['y'], "icon".toList] := by decide +kernel
  obtain ⟨x, hx, xIcon, hxi, hxn, hxin⟩ := exists_x_icons c icons rfl (by simp [icons]) (by simp [icons])
  obtain ⟨y, hy, hyn⟩ := exists_mem_icons c icons (by simp [icons]) hname (by decide)
  have hall : ∀ out ∈ [x, xIcon, y], out ∈ (c.compileAll icons).icons := by
    intro out ho
    simp only [List.mem_cons, List.not_mem_nil, or_false] at ho
    rcases ho with rfl | rfl | rfl <;> assumption
  obtain ⟨-, hsame, -⟩ := compileAll_customTags List.mem_cons_self hx
  obtain ⟨-, -, hbound⟩ := compileAll_customTags List.mem_cons_self hy
  refine ⟨x, xIcon, y, by simp [hxn, hxin, hyn], hall, ?_, ?_, ?_⟩
  · rw [hsame xIcon hxi, hxn, hxin, tagWords_x.1, tagWords_x.2]
  · rw [ne_eq, hsame y hy, hxn, hyn, tagWords_x.1, hwords]
    decide
  · obtain h | ⟨b, hb, hb', h⟩ := hbound _ Registry.ofEntries [] _ hall
    · rw [h]
      exact List.mem_cons_self
    · rw [h]
      simp only [List.mem_cons, List.not_mem_nil, or_false] at hb
      rw [hyn, hwords] at hb'
      rcases hb with rfl | rfl | rfl
      · rw [hxn, tagWords_x.1] at hb'
        exact absurd hb' (by decide)
      · rw [hxin, tagWords_x.2] at hb'
        exact absurd hb' (by decide)
      · rw [hyn]
        exact List.mem_cons_of_mem _ List.mem_cons_self

theorem customTag_x_eq_xIcon :
    let c : Config := { Config.standard with targets := [.webComponent] }
    let icons : List Icon := ["x", "x-icon"].map fun name => ⟨name, "<svg></svg>"⟩
    ∃ a ∈ (c.compileAll icons).icons, ∃ b ∈ (c.compileAll icons).icons,
      a.componentName ≠ b.componentName ∧ a.customTag = b.customTag := by
  intro c icons
  obtain ⟨a, ha, b, hb, han, hbn⟩ := exists_x_icons c icons rfl (by simp [icons]) (by simp [icons])
  refine ⟨a, ha, b, hb, by rw [han, hbn]; decide, ?_⟩
  rw [customTag_eq_iff_tagWords (by rw [han]; decide) (by rw [hbn]; decide), han, hbn, tagWords_x.1,
    tagWords_x.2]

end IconCompiler
