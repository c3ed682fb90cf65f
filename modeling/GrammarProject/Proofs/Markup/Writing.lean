import GrammarProject.Proofs.Markup.Reads
import GrammarProject.Proofs.Markup.Streaming
import Mathlib.Data.List.TakeWhile

/-!
# Written documents

A document with one level of elements below its root (`written`): the texts are escaped (`escaped`),
so that they may hold whatever a document may hold. `ofBytes_written` is that reading it in UTF-8
gives back the elements with their texts, character for character. It is put together from what the
scanner reads in one escaped character (`InText.escaped`), in a start tag, in an end tag and in one
element (`InText.item`). Where a written document breaks off, the items before have ended
(`endedIn_begun`).
-/

namespace GrammarProject.Markup

/-! ## What is written -/

/-- Whether a text is a name without a colon. -/
def isName : List Char → Bool
  | [] => false
  | c :: cs => isNameStart c && cs.all isNameChar

/-- A name without a colon. -/
structure Name where
  text : List Char
  isName_text : isName text = true

/-- An element that has a text and no children. The text is any that a document may hold. -/
structure Item where
  name : Name
  text : List Char
  isLegal_text : text.all isLegal = true

def escaped (c : Char) : List Char :=
  if c = '&' then ['&', 'a', 'm', 'p', ';']
  else if c = '<' then ['&', 'l', 't', ';']
  else if c = '>' then ['&', 'g', 't', ';']
  else if c = '\r' then ['&', '#', '1', '3', ';']
  else [c]

def Name.startTag (n : Name) : List Char := '<' :: n.text ++ ['>']

def Name.endTag (n : Name) : List Char := '<' :: '/' :: n.text ++ ['>']

def Item.written (i : Item) : List Char :=
  i.name.startTag ++ i.text.flatMap escaped ++ i.name.endTag

/-- A document: the elements in their order within the root element. -/
def written (root : Name) (items : List Item) : List Char :=
  root.startTag ++ items.flatMap Item.written ++ root.endTag

def Name.expanded (n : Name) : ExpandedName := ⟨none, n.text⟩

def Item.element (i : Item) : Element := ⟨i.name.expanded, i.text⟩

/-! ## Characters of names -/

theorem isAsciiLetter_iff {c : Char} : isAsciiLetter c = true ↔
    0x61 ≤ c.toNat ∧ c.toNat ≤ 0x7a ∨ 0x41 ≤ c.toNat ∧ c.toNat ≤ 0x5a := by
  simp [isAsciiLetter, Char.le_def, UInt32.le_iff_toNat_le]

theorem isNameChar_of_isNameStart {c : Char} (h : isNameStart c = true) :
    isNameChar c = true := by
  simp [isNameChar, h]

theorem ne_of_isNameChar {c d : Char} (hc : isNameChar c = true) (hd : isNameChar d = false) :
    c ≠ d := by
  rintro rfl
  rw [hd] at hc
  cases hc

theorem isLegal_of_isNameChar {c : Char} (h : isNameChar c = true) : isLegal c = true := by
  have hr : ∀ r ∈ nameStartRanges ++ nameMoreRanges, 0x20 ≤ r.1 ∧ r.2 < 0xfffe := by
    decide +kernel
  have hc : 0x20 ≤ c.toNat ∧ c.toNat < 0xfffe := by
    simp only [isNameChar, isNameStart, Bool.or_eq_true, Text.CharRange.covers_iff,
      isAsciiLetter_iff] at h
    rcases h with (h | ⟨r, hm, h⟩) | ⟨r, hm, h⟩
    · omega
    · have := hr r (List.mem_append_left _ hm)
      omega
    · have := hr r (List.mem_append_right _ hm)
      omega
  unfold isLegal
  rw [if_neg (by omega)]
  simp
  omega

theorem beginsRoot_of_isNameStart {c : Char} (h : isNameStart c = true) :
    (isAsciiLetter c || c = '_' || 0x80 ≤ c.toNat) = true := by
  have hr : ∀ r ∈ nameStartRanges, 0x80 ≤ r.1 ∨ r = (0x41, 0x5a) ∨ r = (0x5f, 0x5f) ∨
      r = (0x61, 0x7a) := by decide +kernel
  simp only [isNameStart, Bool.or_eq_true, Text.CharRange.covers_iff] at h
  simp only [Bool.or_eq_true, decide_eq_true_eq, isAsciiLetter_iff] at h ⊢
  rcases h with h | ⟨r, hm, h⟩
  · exact .inl (.inl h)
  · rcases hr r hm with hr | rfl | rfl | rfl
    · exact .inr (by omega)
    · exact .inl (.inl (.inr h))
    · exact .inl (.inr (Char.toNat_inj.1 (by simp at h ⊢; omega)))
    · exact .inl (.inl (.inl h))

theorem Name.isNameChar_text (n : Name) : ∀ c ∈ n.text, isNameChar c = true := by
  obtain ⟨_ | ⟨c, cs⟩, h⟩ := n
  · exact absurd h (by decide)
  · rw [isName, Bool.and_eq_true, List.all_eq_true] at h
    intro x hx
    rcases List.mem_cons.1 hx with rfl | hx
    · exact isNameChar_of_isNameStart h.1
    · exact h.2 x hx

theorem Name.text_cons (n : Name) : ∃ c cs, n.text = c :: cs ∧ isNameStart c = true := by
  obtain ⟨_ | ⟨c, cs⟩, h⟩ := n
  · exact absurd h (by decide)
  · rw [isName, Bool.and_eq_true] at h
    exact ⟨c, cs, rfl, h.1⟩

theorem Name.ofName_text (n : Name) : QualifiedName.ofName n.text = ⟨[], n.text⟩ := by
  have h : n.text.dropWhile (· ≠ ':') = [] := by
    rw [List.dropWhile_eq_nil_iff]
    intro c hc
    simpa using ne_of_isNameChar (n.isNameChar_text c hc) (by decide)
  rw [QualifiedName.ofName, h]

theorem Name.resolve_startTag (n : Name) (place : Position) :
    StartTag.resolve .empty .initial ⟨place, n.text, []⟩ = .ok (n.expanded, .initial) := by
  have h : StartTag.expandName place .initial n.text = .ok n.expanded := by
    unfold StartTag.expandName
    rw [n.ofName_text]
    rfl
  unfold StartTag.resolve
  rw [show Definitions.empty.rules = [] from rfl, List.foldlM_nil, pure_bind, List.foldlM_nil,
    pure_bind]
  dsimp only
  rw [h]
  rfl

/-! ## In the root element -/

section
variable {opened opened' : List OpenElement} {finished finished' : List Element}
  {start start' : Position} {state state' : ContentState}

/-- What is known in the root element of a document that declares nothing. -/
def plainContent (opened : List OpenElement) (finished : List Element) (start : Position)
    (state : ContentState) : Content :=
  ⟨.empty, .initial, opened, finished, [], 0, start, state, none⟩

def inside (opened : List OpenElement) (finished : List Element) (start : Position)
    (state : ContentState) : Scanner :=
  ⟨.content (plainContent opened finished start state), [], none, none⟩

theorem step_inside_eq {l : Located} {c : Content}
    (h : (plainContent opened finished start state).stepBefore l = .next c) :
    (inside opened finished start state).step l =
      (inside opened finished start state).ofContent c l := by
  have hc : (plainContent opened finished start state).step 0 l = c := by
    rw [Content.step, h]
    rfl
  rw [← hc]
  rfl

theorem step_inside {l : Located}
    (h : (plainContent opened finished start state).stepBefore l =
      .next (plainContent opened' finished' start' state'))
    (ho : opened' ≠ [] ∨ state' ≠ .plain) :
    (inside opened finished start state).step l = inside opened' finished' start' state' := by
  rw [step_inside_eq h]
  unfold Scanner.ofContent
  rw [if_neg (by simp [plainContent]), if_neg]
  · rfl
  · rcases ho with ho | ho <;> simp [plainContent, ho]

theorem reads_inside {Q : Scanner → Prop} {c : Char} {cs : List Char}
    (h : ∀ place, ∃ opened' finished' start' state',
      (plainContent opened finished start state).stepBefore ⟨c, place⟩ =
          .next (plainContent opened' finished' start' state') ∧
        (opened' ≠ [] ∨ state' ≠ .plain) ∧ (inside opened' finished' start' state').Reads Q cs) :
    (inside opened finished start state).Reads Q (c :: cs) := by
  intro place
  obtain ⟨opened', finished', start', state', hstep, ho, hq⟩ := h place
  rw [step_inside hstep ho]
  exact ⟨⟨rfl, rfl, rfl⟩, hq⟩

end

/-! ## Texts -/

def InText (opened : List OpenElement) (finished : List Element) (s : Scanner) : Prop :=
  ∃ start brackets, s = inside opened finished start (.text brackets false)

section
variable {e : OpenElement} {es : List OpenElement} {finished : List Element} {s : Scanner}

/-- The rest of a reference by name, and the character that the name stands for. -/
theorem reads_referenceName {x : Char} {name reversed : List Char} {start : Position}
    (hn : ∀ c ∈ name, isNameChar c = true)
    (hx : predefined? (reversed.reverse ++ name) = some x) :
    (inside (e :: es) finished start (.reference (.name reversed))).Reads
      (InText (e.push x :: es) finished) (name ++ [';']) := by
  induction name generalizing reversed with
  | nil =>
    rw [List.append_nil] at hx
    refine reads_inside fun place => ⟨e.push x :: es, finished, start, .plain, ?_,
      .inl (List.cons_ne_nil _ _), start, 0, rfl⟩
    simp [Content.stepBefore, plainContent, ReferenceState.step, Content.reference, hx,
      Content.goto, Content.push]
  | cons c name ih =>
    have hc := hn c List.mem_cons_self
    have hend : c ≠ ';' := ne_of_isNameChar hc (by decide)
    refine reads_inside fun place => ⟨e :: es, finished, start,
      .reference (.name (c :: reversed)), ?_, .inl (List.cons_ne_nil _ _),
      ih (fun c hc => hn c (List.mem_cons_of_mem _ hc)) (by simpa using hx)⟩
    simp [Content.stepBefore, plainContent, ReferenceState.step, hend, hc, Content.goto]

theorem InText.named (h : InText (e :: es) finished s) {x : Char} (c : Char) (name : List Char)
    (hc : isNameStart c = true) (hn : ∀ c ∈ name, isNameChar c = true)
    (hx : predefined? (c :: name) = some x) :
    s.Reads (InText (e.push x :: es) finished) ('&' :: c :: name ++ [';']) := by
  obtain ⟨start, brackets, rfl⟩ := h
  refine reads_inside fun place => ⟨e :: es, finished, place, .reference .start, ?_,
    .inl (List.cons_ne_nil _ _), ?_⟩
  · rfl
  · have hsign : c ≠ '#' := ne_of_isNameChar (isNameChar_of_isNameStart hc) (by decide)
    refine reads_inside fun place' => ⟨e :: es, finished, place, .reference (.name [c]), ?_,
      .inl (List.cons_ne_nil _ _), reads_referenceName hn hx⟩
    simp [Content.stepBefore, plainContent, ReferenceState.step, hsign, hc, Content.goto]

theorem InText.return (h : InText (e :: es) finished s) :
    s.Reads (InText (e.push '\r' :: es) finished) ['&', '#', '1', '3', ';'] := by
  obtain ⟨start, brackets, rfl⟩ := h
  have hne : e :: es ≠ [] := List.cons_ne_nil _ _
  refine reads_inside fun p => ⟨e :: es, finished, p, .reference .start, rfl, .inl hne, ?_⟩
  refine reads_inside fun _ => ⟨e :: es, finished, p, .reference .number, rfl, .inl hne, ?_⟩
  refine reads_inside fun _ => ⟨e :: es, finished, p, .reference (.decimal 1), rfl, .inl hne, ?_⟩
  refine reads_inside fun _ => ⟨e :: es, finished, p, .reference (.decimal 13), rfl, .inl hne, ?_⟩
  exact reads_inside fun _ => ⟨e.push '\r' :: es, finished, p, .plain, rfl,
    .inl (List.cons_ne_nil _ _), p, 0, rfl⟩

theorem InText.char (h : InText (e :: es) finished s) {c : Char} (h1 : c ≠ '&') (h2 : c ≠ '<')
    (h3 : c ≠ '>') (h4 : c ≠ '\r') : s.Reads (InText (e.push c :: es) finished) [c] := by
  obtain ⟨start, brackets, rfl⟩ := h
  have hne : e.push c :: es ≠ [] := List.cons_ne_nil _ _
  by_cases h5 : c = ']'
  · subst h5
    exact reads_inside fun _ => ⟨_, _, start, .text (min 2 (brackets + 1)) false, rfl, .inl hne,
      start, _, rfl⟩
  · refine reads_inside fun _ => ⟨_, finished, start, .plain, ?_, .inl hne, start, 0, rfl⟩
    simp [Content.stepBefore, plainContent, Content.stepText, Content.breaksLine, Content.goto,
      Content.push, h1, h2, h3, h4, h5]

/-- An escaped character is read as the character. -/
theorem InText.escaped (h : InText (e :: es) finished s) (c : Char) :
    s.Reads (InText (e.push c :: es) finished) (escaped c) := by
  unfold Markup.escaped
  split
  · subst c
    exact h.named 'a' ['m', 'p'] (by decide) (List.all_eq_true.1 (by decide)) rfl
  · split
    · subst c
      exact h.named 'l' ['t'] (by decide) (List.all_eq_true.1 (by decide)) rfl
    · split
      · subst c
        exact h.named 'g' ['t'] (by decide) (List.all_eq_true.1 (by decide)) rfl
      · split
        · subst c
          exact h.return
        · exact h.char ‹_› ‹_› ‹_› ‹_›

theorem InText.text (h : InText (e :: es) finished s) (cs : List Char) :
    s.Reads (InText (cs.foldl OpenElement.push e :: es) finished) (cs.flatMap Markup.escaped) := by
  induction cs generalizing e s with
  | nil => exact h
  | cons c cs ih => exact (h.escaped c).bind fun _ h => ih h

end

/-! ## Start tags -/

section
variable {opened : List OpenElement} {finished : List Element} {s : Scanner}

def InStartTag (opened : List OpenElement) (finished : List Element) (name : List Char)
    (s : Scanner) : Prop :=
  ∃ start place, s = inside opened finished start
    (.startTag ⟨place, [], [], .name ⟨name.reverse, .plain⟩⟩)

def Name.opening (n : Name) : OpenElement := ⟨n.text, n.expanded, .initial, [], false⟩

/-- The elements around one that begins: the innermost has a child now. -/
def around : List OpenElement → List OpenElement
  | [] => []
  | e :: es => { e with hasChild := true } :: es

theorem InStartTag.more {name : List Char} (h : InStartTag opened finished name s)
    {cs : List Char} (hcs : ∀ c ∈ cs, isNameChar c = true) :
    s.Reads (InStartTag opened finished (name ++ cs)) cs := by
  refine Scanner.Reads.each (fun {name s} c hc h => ?_) hcs h
  obtain ⟨start, place, rfl⟩ := h
  have hcolon : c ≠ ':' := ne_of_isNameChar hc (by decide)
  refine reads_inside fun _ => ⟨opened, finished, start,
    .startTag ⟨place, [], [], .name ⟨(name ++ [c]).reverse, .plain⟩⟩, ?_, .inr nofun,
    start, place, rfl⟩
  simp [Content.stepBefore, plainContent, StartTagReader.step, PartialName.step, hcolon, hc,
    StartTagReader.more, Content.goto]

theorem InStartTag.close {n : Name} (h : InStartTag opened finished n.text s) :
    s.Reads (InText (n.opening :: around opened) finished) ['>'] := by
  obtain ⟨start, place, rfl⟩ := h
  refine reads_inside fun _ => ⟨n.opening :: around opened, finished, start, .plain, ?_,
    .inl (List.cons_ne_nil _ _), start, 0, rfl⟩
  have hname : isNameChar '>' = false := by decide
  have hspace : isSpace '>' = false := by decide
  have hresolve := n.resolve_startTag place
  simp [Content.stepBefore, plainContent, StartTagReader.step, PartialName.step, hname, hspace,
      StartTagReader.stepBoundary, StartTagReader.complete, Content.startTag, Content.goto,
      PartialName.text, hresolve, Content.beginElement, Name.opening]
  cases opened <;> rfl

theorem InText.startTag (h : InText opened finished s) (n : Name) :
    s.Reads (InText (n.opening :: around opened) finished) n.startTag := by
  obtain ⟨start, brackets, rfl⟩ := h
  obtain ⟨c, cs, hcs, hc⟩ := n.text_cons
  have hmarkup : (inside opened finished start (.text brackets false)).Reads
      (InStartTag opened finished n.text) ('<' :: n.text) := by
    rw [hcs]
    refine reads_inside fun place => ⟨opened, finished, place, .markup, rfl, .inr nofun, ?_⟩
    refine reads_inside fun place' => ⟨opened, finished, place,
      .startTag (.ofChar place c), ?_, .inr nofun, ?_⟩
    · simp [Content.stepBefore, plainContent, Content.stepMarkup, hc, Content.goto]
    · have hnext : InStartTag opened finished [c]
        (inside opened finished place (.startTag (.ofChar place c))) := ⟨place, place, rfl⟩
      exact hnext.more fun x hx => n.isNameChar_text x (hcs ▸ List.mem_cons_of_mem _ hx)
  exact hmarkup.bind fun _ h => h.close

theorem step_step_first {c : Char} (hc : isNameStart c = true) (place place' : Position) :
    (Scanner.first.step ⟨'<', place⟩).step ⟨c, place'⟩ =
      inside [] [] place (.startTag (.ofChar place c)) := by
  have hname := isNameChar_of_isNameStart hc
  have hroot : (TokenReader.mk place .markup).step ⟨c, place'⟩ =
      ([⟨place, .root⟩], .ok (.between place)) := by
    change TokenReader.stepMarkup _ _ = _
    unfold TokenReader.stepMarkup
    rw [if_neg (ne_of_isNameChar hname (by decide)), if_neg (ne_of_isNameChar hname (by decide)),
      if_pos (beginsRoot_of_isNameStart hc)]
    rfl
  have houtside : (Scanner.first.step ⟨'<', place⟩).step ⟨c, place'⟩ =
      (inside [] [] place .markup).step ⟨c, place'⟩ := by
    change (Scanner.first.step ⟨'<', place⟩).stepOutside ⟨place, .markup⟩ ⟨c, place'⟩ = _
    unfold Scanner.stepOutside
    rw [hroot]
    rfl
  rw [houtside]
  refine step_inside ?_ (.inr nofun)
  simp [Content.stepBefore, plainContent, Content.stepMarkup, hc, Content.goto]

/-- The start tag of the root element, with which a document begins. -/
theorem reads_first (n : Name) : Scanner.first.Reads (InText [n.opening] []) n.startTag := by
  obtain ⟨c, cs, hcs, hc⟩ := n.text_cons
  have hname : Scanner.first.Reads (InStartTag [] [] n.text) ('<' :: n.text) := by
    rw [hcs]
    refine fun place => ⟨⟨rfl, rfl, rfl⟩, fun place' => ?_⟩
    rw [step_step_first hc]
    have hnext : InStartTag [] [] [c] (inside [] [] place (.startTag (.ofChar place c))) :=
      ⟨place, place, rfl⟩
    exact ⟨⟨rfl, rfl, rfl⟩,
      hnext.more fun x hx => n.isNameChar_text x (hcs ▸ List.mem_cons_of_mem _ hx)⟩
  exact hname.bind fun _ h => h.close

end

/-! ## End tags -/

section
variable {opened : List OpenElement} {finished : List Element} {s : Scanner}

def InEndTag (opened : List OpenElement) (finished : List Element) (name : List Char)
    (s : Scanner) : Prop :=
  ∃ start place, s = inside opened finished start (.endTag (.name name.reverse place))

def AtEnd (finished : List Element) (s : Scanner) : Prop :=
  ∃ place, s = ⟨.epilogue (.between place), finished, none, none⟩

theorem InEndTag.more {name : List Char} (h : InEndTag opened finished name s)
    {cs : List Char} (hcs : ∀ c ∈ cs, isNameChar c = true) :
    s.Reads (InEndTag opened finished (name ++ cs)) cs := by
  refine Scanner.Reads.each (fun {name s} c hc h => ?_) hcs h
  obtain ⟨start, place, rfl⟩ := h
  refine reads_inside fun _ => ⟨opened, finished, start,
    .endTag (.name (name ++ [c]).reverse place), ?_, .inr nofun, start, place, rfl⟩
  simp [Content.stepBefore, plainContent, EndTagState.step, hc, Content.goto]

theorem InText.endTagName (h : InText opened finished s) (n : Name) :
    s.Reads (InEndTag opened finished n.text) ('<' :: '/' :: n.text) := by
  obtain ⟨start, brackets, rfl⟩ := h
  obtain ⟨c, cs, hcs, hc⟩ := n.text_cons
  rw [hcs]
  refine reads_inside fun place => ⟨opened, finished, place, .markup, rfl, .inr nofun, ?_⟩
  refine reads_inside fun _ => ⟨opened, finished, place, .endTag .start, rfl, .inr nofun, ?_⟩
  refine reads_inside fun place' => ⟨opened, finished, place, .endTag (.name [c] place'), ?_,
    .inr nofun, ?_⟩
  · simp [Content.stepBefore, plainContent, EndTagState.step, hc, Content.goto]
  · have hnext : InEndTag opened finished [c]
      (inside opened finished place (.endTag (.name [c] place'))) := ⟨place, place', rfl⟩
    exact hnext.more fun x hx => n.isNameChar_text x (hcs ▸ List.mem_cons_of_mem _ hx)

def OpenElement.ended (e : OpenElement) : Element := ⟨e.name, e.reversed.reverse⟩

theorem stepBefore_endTag {n : Name} {e : OpenElement} {es : List OpenElement}
    (hname : e.tagName = n.text) (houter : e.outer = .initial) (start place place' : Position) :
    (plainContent (e :: es) finished start (.endTag (.name n.text.reverse place))).stepBefore
      ⟨'>', place'⟩ = .next (plainContent es (e.ended :: finished) start .plain) := by
  have hnameChar : isNameChar '>' = false := by decide
  have hspace : isSpace '>' = false := by decide
  simp [Content.stepBefore, plainContent, EndTagState.step, hnameChar, hspace, Content.endTag,
    hname, Content.goto, Content.endElement, houter, OpenElement.ended]

/-- The end tag of an element within another. -/
theorem InText.endTag {n : Name} {e e' : OpenElement} {es : List OpenElement}
    (h : InText (e :: e' :: es) finished s) (hname : e.tagName = n.text)
    (houter : e.outer = .initial) :
    s.Reads (InText (e' :: es) (e.ended :: finished)) n.endTag := by
  refine (h.endTagName n).bind fun s hs => ?_
  obtain ⟨start, place, rfl⟩ := hs
  exact reads_inside fun place' => ⟨e' :: es, e.ended :: finished, start, .plain,
    stepBefore_endTag hname houter start place place', .inl (List.cons_ne_nil _ _), start, 0, rfl⟩

/-- The end tag of the root element. -/
theorem InText.rootEnd {n : Name} {e : OpenElement}
    (h : InText [e] finished s) (hname : e.tagName = n.text) (houter : e.outer = .initial) :
    s.Reads (AtEnd (e.ended :: finished)) n.endTag := by
  refine (h.endTagName n).bind fun s hs => ?_
  obtain ⟨start, place, rfl⟩ := hs
  intro place'
  rw [step_inside_eq (stepBefore_endTag hname houter start place place')]
  exact ⟨⟨rfl, rfl, rfl⟩, place', rfl⟩

end

/-! ## Documents -/

theorem foldl_push (cs : List Char) (e : OpenElement) (h : e.hasChild = false) :
    cs.foldl OpenElement.push e = { e with reversed := cs.reverse ++ e.reversed } := by
  induction cs generalizing e with
  | nil => rfl
  | cons c cs ih =>
    rw [List.foldl_cons, ih _ (by simp [OpenElement.push, h])]
    simp [OpenElement.push, h]

/-- One element is read as it was written. -/
theorem InText.item {e : OpenElement} {finished : List Element} {s : Scanner}
    (h : InText [e] finished s) (i : Item) :
    s.Reads (InText [{ e with hasChild := true }] (i.element :: finished)) i.written := by
  refine ((h.startTag i.name).bind fun _ h => h.text i.text).bind fun _ h => ?_
  rw [foldl_push i.text i.name.opening rfl] at h
  have hend := h.endTag (n := i.name) rfl rfl
  simpa [OpenElement.ended, Name.opening, Item.element] using hend

theorem InText.items {e : OpenElement} {finished : List Element} {s : Scanner}
    (h : InText [e] finished s) (items : List Item) :
    s.Reads (fun s => ∃ hasChild, InText [{ e with hasChild }]
      ((items.map Item.element).reverse ++ finished) s) (items.flatMap Item.written) := by
  induction items generalizing e finished s with
  | nil => exact ⟨e.hasChild, h⟩
  | cons i items ih =>
    refine (h.item i).bind fun _ h => ?_
    have hrest := ih h
    simp only [List.map_cons, List.reverse_cons, List.append_assoc, List.singleton_append]
    exact hrest

/-- **A scanner reads the elements of a document as they were written.** -/
theorem reads_written (root : Name) (items : List Item) :
    Scanner.first.Reads (AtEnd (⟨root.expanded, []⟩ :: (items.map Item.element).reverse))
      (written root items) := by
  refine ((reads_first root).bind fun _ h => h.items items).bind fun s hs => ?_
  obtain ⟨hasChild, h⟩ := hs
  rw [List.append_nil] at h
  exact h.rootEnd rfl rfl

theorem Name.isLegal_startTag (n : Name) : ∀ c ∈ n.startTag, isLegal c = true := by
  simp only [Name.startTag, List.forall_mem_append, List.forall_mem_cons]
  exact ⟨⟨by decide, fun c hc => isLegal_of_isNameChar (n.isNameChar_text c hc)⟩, by decide,
    by simp⟩

theorem Name.isLegal_endTag (n : Name) : ∀ c ∈ n.endTag, isLegal c = true := by
  simp only [Name.endTag, List.forall_mem_append, List.forall_mem_cons]
  exact ⟨⟨by decide, by decide, fun c hc => isLegal_of_isNameChar (n.isNameChar_text c hc)⟩,
    by decide, by simp⟩

theorem isLegal_escaped {c : Char} (hc : isLegal c = true) :
    ∀ d ∈ escaped c, isLegal d = true := by
  unfold escaped
  split
  · exact List.all_eq_true.1 (by decide)
  · split
    · exact List.all_eq_true.1 (by decide)
    · split
      · exact List.all_eq_true.1 (by decide)
      · split
        · exact List.all_eq_true.1 (by decide)
        · simpa using hc

theorem isLegal_written (root : Name) (items : List Item) :
    ∀ c ∈ written root items, isLegal c = true := by
  simp only [written, Item.written, List.forall_mem_append, List.mem_flatMap]
  refine ⟨⟨root.isLegal_startTag, ?_⟩, root.isLegal_endTag⟩
  rintro c ⟨i, -, hc⟩
  rcases List.mem_append.1 hc with hc | hc
  · rcases List.mem_append.1 hc with hc | hc
    · exact i.name.isLegal_startTag c hc
    · obtain ⟨d, hd, hc⟩ := List.mem_flatMap.1 hc
      exact isLegal_escaped (List.all_eq_true.1 i.isLegal_text d hd) c hc
  · exact i.name.isLegal_endTag c hc

/-- **A document in UTF-8 is read as it was written**: its elements are the items in their order,
and the root element behind them. -/
theorem ofBytes_written [Platform] (root : Name) (items : List Item) :
    Document.ofBytes (Text.utf8Bytes (written root items)) =
      ⟨items.map Item.element ++ [⟨root.expanded, []⟩], none⟩ := by
  obtain ⟨c, cs, hcs, -⟩ := root.text_cons
  have hw : written root items =
      '<' :: c :: (cs ++ ['>'] ++ items.flatMap Item.written ++ root.endTag) := by
    simp [written, Name.startTag, hcs]
  have hlegal := isLegal_written root items
  have hreads := reads_written root items
  rw [hw] at hlegal hreads ⊢
  obtain ⟨s, place, ⟨last, rfl⟩, hfull, hmeets⟩ := Document.inFull_utf8 hlegal hreads
  have hnone : ((⟨.epilogue (.between last), ⟨root.expanded, []⟩ ::
      (items.map Item.element).reverse, none, none⟩ : Scanner).ending place).map Stop.fault =
        none := by
    simp [Scanner.ending, Scanner.endingOutside, TokenReader.finish, TokenReader.between]
  rw [hnone] at hfull
  rw [Document.ofBytes_eq_inFull (Document.refusal?_eq_none hmeets) (by rw [hfull]), hfull]
  simp [Scanner.elements]

/-! ## Documents that break off -/

/-- The start of a written document, up to somewhere in the text of an item. -/
def begun (root : Name) (items : List Item) (last : Item) : List Char :=
  root.startTag ++ items.flatMap Item.written ++ (last.name.startTag ++ last.text.flatMap escaped)

theorem reads_begun (root : Name) (items : List Item) (last : Item) :
    Scanner.first.Reads (fun s => ∃ opened, InText opened (items.map Item.element).reverse s)
      (begun root items last) := by
  refine ((reads_first root).bind fun _ h => h.items items).bind fun s hs => ?_
  obtain ⟨hasChild, h⟩ := hs
  rw [List.append_nil] at h
  refine (h.startTag last.name).bind fun s h => ?_
  exact (List.append_nil (last.text.flatMap escaped)) ▸
    (h.text last.text).bind fun s h => ⟨_, h⟩

theorem isLegal_begun (root : Name) (items : List Item) (last : Item) :
    ∀ c ∈ begun root items last, isLegal c = true := by
  intro c hc
  refine isLegal_written root (items ++ [last]) c ?_
  simp only [begun, written, Item.written, List.flatMap_append, List.flatMap_singleton,
    List.mem_append] at hc ⊢
  rcases hc with (hc | hc) | hc | hc <;> simp [hc]

/-- The items have ended, the one that is still open has not. -/
theorem endedIn_begun [Platform] (root : Name) (items : List Item) (last : Item) :
    endedIn (Text.utf8Bytes (begun root items last)) = items.map Item.element ∧
      wrongIn (Text.utf8Bytes (begun root items last)) = none := by
  obtain ⟨c, cs, hcs, -⟩ := root.text_cons
  have hb : begun root items last = '<' :: c :: (cs ++ ['>'] ++ items.flatMap Item.written ++
      (last.name.startTag ++ last.text.flatMap escaped)) := by
    simp [begun, Name.startTag, hcs]
  have hlegal := isLegal_begun root items last
  have hreads := reads_begun root items last
  rw [hb] at hlegal hreads ⊢
  obtain ⟨s, ⟨opened, start, brackets, rfl⟩, hfollows, -⟩ :=
    DocumentReader.foldl_utf8 hlegal hreads
  refine ⟨?_, hfollows.stop_eq⟩
  rw [endedIn, behind, hfollows.scanner_eq]
  simp [Scanner.elements, inside, plainContent]

end GrammarProject.Markup
