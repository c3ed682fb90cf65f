import GrammarProject.Platform.Standard
import GrammarProject.Proofs.Descriptor.References
import GrammarProject.Proofs.Descriptor.RoundTrip
import Mathlib.Logic.Function.Iterate

/-!
# Reading again

A reader that reads its descriptor once more comes to the same project (`Reader.read_again`): each
file that is there is included already (`Reader.Settled`), a plugin once shown stays shown, and of
every other field the last text counts. What each further reading finds anew are the references that
include nothing, the empty ones and the missing files (`Finding.recurs`).
-/

namespace GrammarProject.Descriptor

/-- A finding that is made whenever the reference is read: the reference includes nothing. -/
def Finding.recurs : Finding → Bool
  | emptyReference _ => true
  | missingGrammar .. => true
  | unreadableGrammar .. => false
  | surplusGrammar .. => false

namespace Reader

variable {t : FileTree} {r s last next : Reader} {said : List (Field × List Char)}
  {text : List Char}

/-! ## References -/

/-- What is found about a reference whenever it is read. -/
def lacking? (t : FileTree) (r : Reader) (text : List Char) : Option Finding :=
  match r.leadsTo? t text with
  | none => some (.emptyReference r.path)
  | some file => if t.reaches file.toString then none else some (.missingGrammar file r.path)

theorem lacking?_congr (h : s.settings = r.settings) (text : List Char) :
    s.lacking? t text = r.lacking? t text := by
  have hpath : s.path = r.path := congrArg Prod.fst h
  rw [lacking?, lacking?, leadsTo?_congr h, hpath]

/-- A reference leads to a file that is included already, or to nothing. -/
def Settled (t : FileTree) (r : Reader) (text : List Char) : Prop :=
  ∀ file, r.leadsTo? t text = some file →
    ∃ there, isThere t file = .ok there ∧ (there = true → file ∈ r.draft.includes)

theorem Settled.mono (h : Settled t r text) (hs : s.settings = r.settings)
    (hi : ∀ file ∈ r.draft.includes, file ∈ s.draft.includes) : Settled t s text := by
  intro file hto
  rw [leadsTo?_congr hs] at hto
  obtain ⟨there, hthere, hmem⟩ := h file hto
  exact ⟨there, hthere, fun h => hi file (hmem h)⟩

section
variable [Platform]

/-- **The first reading of a reference** settles it. -/
theorem onGrammar_settles (h : r.onGrammar t text = (next, none)) :
    next.findings.filter Finding.recurs =
        r.findings.filter Finding.recurs ++ (r.lacking? t text).toList ∧
      (∀ file ∈ r.draft.includes, file ∈ next.draft.includes) ∧ Settled t next text := by
  have hs : next.settings = r.settings := by
    rw [← settings_handleField t r .grammar text, handleField, h]
  have hto := leadsTo?_congr (t := t) hs text
  unfold lacking? Settled
  rw [hto]
  rw [onGrammar_eq] at h
  cases hfile : r.leadsTo? t text with
  | none =>
    rw [hfile] at h
    cases h
    exact ⟨by simp [Finding.recurs], fun _ h => h, by simp⟩
  | some file =>
    rw [hfile] at h
    dsimp only at h ⊢
    obtain ⟨there, hp, hcases⟩ := recordReference_returns h
    rw [isThere_ok hp]
    rcases hcases with ⟨rfl, rfl⟩ | ⟨rfl, hm, rfl⟩ | ⟨rfl, -, hi, hcases⟩
    · refine ⟨by simp [Finding.recurs], fun _ h => h, fun file' hfile' => ?_⟩
      cases hfile'
      exact ⟨false, hp, by simp⟩
    · refine ⟨by simp, fun _ h => h, fun file' hfile' => ?_⟩
      cases hfile'
      exact ⟨true, hp, fun _ => hm⟩
    · refine ⟨?_, fun _ h => hi ▸ List.mem_append_left _ h, fun file' hfile' => ?_⟩
      · rcases hcases with ⟨f, -, -, hf⟩ | ⟨g, -, -, -, hf⟩ | ⟨g, holder, -, -, -, hf⟩ <;>
          simp [hf, Finding.recurs]
      · cases hfile'
        exact ⟨true, hp, fun _ => hi ▸ List.mem_append_right _ (List.mem_singleton_self _)⟩

/-- A settled reference changes nothing but what is found. -/
theorem onGrammar_again (h : Settled t s text) : ∃ next, s.onGrammar t text = (next, none) ∧
    next.draft = s.draft ∧ next.findings = s.findings ++ (s.lacking? t text).toList := by
  unfold lacking?
  rw [onGrammar_eq]
  cases hto : s.leadsTo? t text with
  | none => exact ⟨_, rfl, rfl, rfl⟩
  | some file =>
    obtain ⟨there, hp, hm⟩ := h file hto
    dsimp only
    rw [hp, isThere_ok hp]
    cases there with
    | false => exact ⟨_, rfl, rfl, rfl⟩
    | true =>
      refine ⟨s, ?_, rfl, by simp⟩
      simp [recordReference, Draft.hasInclude_iff.2 (hm rfl)]

theorem handleFields_settles (h : r.handleFields t said = (last, none)) :
    last.findings.filter Finding.recurs = r.findings.filter Finding.recurs ++
        (Field.grammar.textsOf said).filterMap (r.lacking? t) ∧
      (∀ file ∈ r.draft.includes, file ∈ last.draft.includes) ∧
      ∀ text ∈ Field.grammar.textsOf said, Settled t last text := by
  induction said generalizing r with
  | nil =>
    cases h
    exact ⟨by simp [Field.textsOf], fun _ h => h, by simp [Field.textsOf]⟩
  | cons one said ih =>
    obtain ⟨field, text⟩ := one
    obtain ⟨next, hnext, hrest⟩ := handleFields_cons h
    have hs := settings_of_handleField hnext
    have hlacking : next.lacking? t = r.lacking? t := funext (lacking?_congr hs)
    obtain ⟨hf, hi, hsettled⟩ := ih hrest
    rw [hlacking] at hf
    by_cases hg : field = .grammar
    · subst hg
      obtain ⟨hfnext, hinext, hnow⟩ := onGrammar_settles hnext
      rw [Field.textsOf_cons_self, List.forall_mem_cons]
      refine ⟨?_, fun file hfile => hi file (hinext file hfile),
        hnow.mono (settings_of_handleFields hrest) hi, hsettled⟩
      rw [hf, hfnext, List.append_assoc, filterMap_cons_toList]
    · obtain ⟨h1, -, h3⟩ := handleField_samePart (t := t) (r := r) (Ne.symm hg) text
      rw [hnext] at h1 h3
      rw [Field.textsOf_cons_of_ne hg]
      exact ⟨h3 ▸ hf, h1 ▸ hi, hsettled⟩

/-! ## The other fields -/

theorem handleField_returns_congr {field : Field} (hf : field ≠ .grammar)
    (hs : s.settings = r.settings) (h : r.handleField t field text = (next, none)) :
    ∃ next', s.handleField t field text = (next', none) := by
  cases field with
  | grammar => exact absurd rfl hf
  | exampleFiles =>
    simp only [handleField, onExampleFiles] at h ⊢
    rw [examplesIn_congr hs]
    cases hexamples : r.examplesIn t text with
    | error f =>
      rw [hexamples] at h
      cases h
    | ok examples => exact ⟨_, rfl⟩
  | artifact | longName | entryPoint | caseInsensitiveType => exact ⟨_, rfl⟩

/-- A field that is neither a reference nor an artifact overwrites what it said before. -/
theorem handleField_overwrites {field : Field} (hf : field ≠ .grammar ∧ field ≠ .artifact)
    (hs : s.settings = r.settings) {next' : Reader} (h : r.handleField t field text = (next, none))
    (h' : s.handleField t field text = (next', none)) : SamePart field next' next := by
  cases field with
  | grammar => exact absurd rfl hf.1
  | artifact => exact absurd rfl hf.2
  | exampleFiles =>
    have hroot : exampleRoot s.directory = exampleRoot r.directory :=
      congrArg (exampleRoot ·.2.1) hs
    simp only [handleField, onExampleFiles] at h h'
    rw [examplesIn_congr hs] at h'
    cases hexamples : r.examplesIn t text with
    | error f =>
      rw [hexamples] at h
      cases h
    | ok examples =>
      rw [hexamples] at h h'
      cases h
      cases h'
      exact ⟨rfl, hroot⟩
  | longName | entryPoint | caseInsensitiveType =>
    cases h
    cases h'
    rfl

/-- The last text of a field counts, or what was known where there is none. -/
theorem handleFields_overwrites {field : Field} (hf : field ≠ .grammar ∧ field ≠ .artifact)
    {last' : Reader} (hs : s.settings = r.settings) (h : r.handleFields t said = (last, none))
    (h' : s.handleFields t said = (last', none))
    (hsame : SamePart field s r ∨ field.textsOf said ≠ []) : SamePart field last' last := by
  induction said generalizing r s with
  | nil =>
    cases h
    cases h'
    exact hsame.resolve_right (by simp [Field.textsOf])
  | cons one said ih =>
    obtain ⟨other, text⟩ := one
    obtain ⟨next, hnext, hrest⟩ := handleFields_cons h
    obtain ⟨next', hnext', hrest'⟩ := handleFields_cons h'
    have hsettings : next'.settings = next.settings := by
      rw [settings_of_handleField hnext', settings_of_handleField hnext, hs]
    refine ih hsettings hrest hrest' ?_
    by_cases ho : other = field
    · subst ho
      exact .inl (handleField_overwrites hf hs hnext hnext')
    · rw [Field.textsOf_cons_of_ne ho] at hsame
      have hp := handleField_samePart (t := t) (r := r) (Ne.symm ho) text
      have hp' := handleField_samePart (t := t) (r := s) (Ne.symm ho) text
      rw [hnext] at hp
      rw [hnext'] at hp'
      exact hsame.imp_left fun h => hp'.trans (h.trans hp.symm)

theorem handleFields_untouched {field : Field} (h : r.handleFields t said = (last, none))
    (hnone : field.textsOf said = []) : SamePart field last r := by
  induction said generalizing r with
  | nil =>
    cases h
    exact .refl field _
  | cons one said ih =>
    obtain ⟨other, text⟩ := one
    obtain ⟨next, hnext, hrest⟩ := handleFields_cons h
    have ho : other ≠ field := by
      rintro rfl
      simp at hnone
    rw [Field.textsOf_cons_of_ne ho] at hnone
    have hp := handleField_samePart (t := t) (r := r) (Ne.symm ho) text
    rw [hnext] at hp
    exact (ih hrest hnone).trans hp

/-! ## Once more -/

/-- A run that has returned returns once more, in a reader that has settled its references. -/
theorem handleFields_again (h : r.handleFields t said = (last, none))
    (hs : s.settings = r.settings)
    (hsettled : ∀ text ∈ Field.grammar.textsOf said, Settled t s text) :
    ∃ last', s.handleFields t said = (last', none) ∧
      last'.draft.includes = s.draft.includes ∧ last'.draft.grammars = s.draft.grammars ∧
      last'.findings = s.findings ++ (Field.grammar.textsOf said).filterMap (r.lacking? t) := by
  induction said generalizing r s with
  | nil => exact ⟨s, rfl, rfl, rfl, by simp [Field.textsOf]⟩
  | cons one said ih =>
    obtain ⟨field, text⟩ := one
    obtain ⟨next, hnext, hrest⟩ := handleFields_cons h
    have hlacking : next.lacking? t = r.lacking? t :=
      funext (lacking?_congr (settings_of_handleField hnext))
    by_cases hg : field = .grammar
    · subst hg
      rw [Field.textsOf_cons_self, List.forall_mem_cons] at hsettled
      obtain ⟨snext, hsnext, hdraft, hfound⟩ := onGrammar_again hsettled.1
      have hsnext : s.handleField t .grammar text = (snext, none) := hsnext
      have hset := settings_of_handleField hsnext
      obtain ⟨last', hlast', hi, hgs, hf⟩ := ih (s := snext) hrest
        (by rw [hset, hs, settings_of_handleField hnext])
        fun text ht => (hsettled.2 text ht).mono hset fun file hfile => hdraft ▸ hfile
      refine ⟨last', ?_, by rw [hi, hdraft], by rw [hgs, hdraft], ?_⟩
      · rw [handleFields, hsnext]
        exact hlast'
      · rw [hf, hlacking, hfound, lacking?_congr hs, Field.textsOf_cons_self, List.append_assoc,
          filterMap_cons_toList]
    · obtain ⟨snext, hsnext⟩ := handleField_returns_congr hg hs hnext
      have hset := settings_of_handleField hsnext
      obtain ⟨h1, h2, h3⟩ := handleField_samePart (t := t) (r := s) (Ne.symm hg) text
      rw [hsnext] at h1 h2 h3
      rw [Field.textsOf_cons_of_ne hg] at hsettled ⊢
      obtain ⟨last', hlast', hi, hgs, hf⟩ := ih (s := snext) hrest
        (by rw [hset, hs, settings_of_handleField hnext])
        fun text ht => (hsettled text ht).mono hset fun file hfile => h1 ▸ hfile
      refine ⟨last', ?_, by rw [hi, h1], by rw [hgs, h2], by rw [hf, h3, hlacking]⟩
      rw [handleFields, hsnext]
      exact hlast'

/-- **A run once more** in a reader that knows what the first has come to: nothing changes but for
the findings that recur. -/
theorem handleFields_twice (h : r.handleFields t said = (last, none))
    (hs : s.settings = last.settings) (hd : s.draft = last.draft) :
    ∃ last', s.handleFields t said = (last', none) ∧ last'.settings = last.settings ∧
      last'.draft = last.draft ∧
      last'.findings = s.findings ++ (Field.grammar.textsOf said).filterMap (r.lacking? t) := by
  have hset : s.settings = r.settings := by rw [hs, settings_of_handleFields h]
  obtain ⟨-, -, hsettled⟩ := handleFields_settles h
  obtain ⟨last', hlast', hi, hg, hf⟩ := handleFields_again h hset fun text ht =>
    (hsettled text ht).mono hs fun file hfile => hd ▸ hfile
  have hset' : last'.settings = last.settings := by rw [settings_of_handleFields hlast', hs]
  have hoverwrites {field : Field} (hne : field ≠ .grammar ∧ field ≠ .artifact) :
      SamePart field last' last := by
    by_cases hnone : field.textsOf said = []
    · have hstart : SamePart field s last := by
        cases field <;> simp_all [SamePart]
      exact (handleFields_untouched hlast' hnone).trans hstart
    · exact handleFields_overwrites hne hset h hlast' (.inr hnone)
  have hplugin : last'.draft.usesPlugin = last.draft.usesPlugin := by
    have htarget : s.target = r.target := congrArg (·.2.2.1) hset
    rw [Bool.eq_iff_iff, handleFields_plugin hlast', hd, htarget, handleFields_plugin h]
    tauto
  refine ⟨last', hlast', hset', draft_eq_of_parts hset' (hi.trans (by rw [hd]))
    (hg.trans (by rw [hd])) fun field hfield => ?_, hf⟩
  by_cases ha : field = .artifact
  · exact ha ▸ hplugin
  · exact hoverwrites ⟨hfield, ha⟩

theorem read_once_more {bytes : List UInt8} {project : Project}
    (hb : t.contentOf r.path.toString = .ok bytes)
    (hstop : (Markup.Document.ofBytes bytes).stop = none)
    (h : r.handleFields t (Field.said (Markup.Document.ofBytes bytes).elements) = (last, none))
    (hproject : last.draft.build = .ok project) (hs : s.settings = last.settings)
    (hd : s.draft = last.draft) :
    let found := s.findings ++
      (Field.grammar.texts (Markup.Document.ofBytes bytes).elements).filterMap (r.lacking? t)
    ∃ s', s.read t = (s', .ok ⟨project, found⟩) ∧ s'.settings = last.settings ∧
      s'.draft = last.draft ∧ s'.findings = found := by
  have hpath : s.path = r.path := congrArg Prod.fst (hs.trans (settings_of_handleFields h))
  obtain ⟨last', hlast', hset, hdraft, hfound⟩ := handleFields_twice h hs hd
  rw [Field.textsOf_said] at hfound
  refine ⟨last'.count, ?_, hset, hdraft, hfound⟩
  rw [read_eq_handleFields (hpath ▸ hb) hstop, hlast']
  dsimp only
  rw [reading, hdraft, hproject, hfound]
  rfl

/-- **Readings once more**, any number of them: each finds what recurs. -/
theorem iterate_once_more {bytes : List UInt8} {project : Project}
    (hb : t.contentOf r.path.toString = .ok bytes)
    (hstop : (Markup.Document.ofBytes bytes).stop = none)
    (h : r.handleFields t (Field.said (Markup.Document.ofBytes bytes).elements) = (last, none))
    (hproject : last.draft.build = .ok project) (hs : s.settings = last.settings)
    (hd : s.draft = last.draft) (n : Nat) :
    let again := (fun r : Reader => (r.read t).1)^[n] s
    again.settings = last.settings ∧ again.draft = last.draft ∧
      again.findings = s.findings ++ (List.replicate n
        ((Field.grammar.texts (Markup.Document.ofBytes bytes).elements).filterMap
          (r.lacking? t))).flatten := by
  induction n with
  | zero => exact ⟨hs, hd, by simp⟩
  | succ n ih =>
    obtain ⟨hs, hd, hf⟩ := ih
    obtain ⟨s', hread, hs', hd', hf'⟩ := read_once_more hb hstop h hproject hs hd
    rw [Function.iterate_succ_apply', hread]
    refine ⟨hs', hd', ?_⟩
    rw [hf', hf, List.replicate_succ', List.flatten_append, List.flatten_singleton,
      List.append_assoc]

end

/-- **Reading again** comes to the same project, any number of times. Each further reading finds
once more the empty references and the missing files that the first has found, and nothing else. -/
theorem read_again [Platform] {path encoding : String} {target : Target} {r₁ : Reader} {first : Reading}
    (h : (ofPath path target encoding).read t = (r₁, .ok first)) (n : Nat) :
    let reread (r : Reader) : Reader := (r.read t).1
    ((reread^[n] (ofPath path target encoding)).read t).2 = .ok ⟨first.project,
      first.findings ++ (List.replicate n (first.findings.filter Finding.recurs)).flatten⟩ := by
  intro reread
  obtain ⟨bytes, hb, last, hlast, hstop, rfl, hproject, hfindings⟩ := read_ok h
  rw [handleAll_eq_handleFields] at hlast
  obtain ⟨hrecurs, -⟩ := handleFields_settles hlast
  have hempty : (ofPath path target encoding).findings = [] := rfl
  rw [Field.textsOf_said, hempty, List.filter_nil, List.nil_append, ← hfindings] at hrecurs
  cases n with
  | zero =>
    rw [Function.iterate_zero_apply, h]
    simp
  | succ n =>
    have hfirst : reread (ofPath path target encoding) = last.count := congrArg Prod.fst h
    have hfound : last.count.findings = first.findings := hfindings.symm
    obtain ⟨hs, hd, hf⟩ := iterate_once_more (s := last.count) hb hstop hlast hproject rfl rfl n
    obtain ⟨s', hread, -⟩ := read_once_more hb hstop hlast hproject hs hd
    rw [Function.iterate_succ_apply, hfirst, hread, hf, hfound, ← hrecurs, List.replicate_succ',
      List.flatten_append, List.flatten_singleton, List.append_assoc]

section
open scoped Platform

/-- A reference to nothing, one to a file without a header, one to a grammar and one to a second
grammar of its kind, read three times. -/
theorem read_again_mixed :
    let t : FileTree := ⟨[(["pom.xml"], .file (Text.utf8Bytes
        ("<p><grammarName>A</grammarName><include/><include>N</include><include>E</include>" ++
          "<include>F</include><grammarName>B</grammarName><include>G</include></p>").toList)),
      (["E"], .file []), (["F"], .file (Text.utf8Bytes "grammar F;".toList)),
      (["G"], .file (Text.utf8Bytes "grammar G;".toList))], []⟩
    let r := ofPath "pom.xml" .go "utf-8"
    ∃ r₁ first, r.read t = (r₁, .ok first) ∧ first.project.longName = "B" ∧
      first.findings.map Finding.recurs = [true, true, false, false] ∧
      ((r₁.read t).1.read t).2 = .ok ⟨first.project, first.findings ++
        (List.replicate 2 (first.findings.filter Finding.recurs)).flatten⟩ := by
  rw [String.toList_append, String.toList_ofList, String.toList_ofList, String.toList_ofList,
    String.toList_ofList]
  -- For any tree, so that no reading is evaluated where the terms are compared.
  have hagain : ∀ (t : FileTree) (r₁ : Reader) (first : Reading),
      (ofPath "pom.xml" .go "utf-8").read t = (r₁, .ok first) →
        ((r₁.read t).1.read t).2 = .ok ⟨first.project, first.findings ++
          (List.replicate 2 (first.findings.filter Finding.recurs)).flatten⟩ := by
    intro t r₁ first hr
    have h := read_again hr 2
    simp only [Function.iterate_succ_apply, Function.iterate_zero_apply] at h
    rwa [hr] at h
  intro t r
  have h : (r.read t).2.toOption.map
      (fun first => (first.project.longName, first.findings.map Finding.recurs)) =
        some ("B", [true, true, false, false]) := by
    decide +kernel
  rcases hr : r.read t with ⟨r₁, result⟩
  rw [hr] at h
  obtain ⟨first, rfl, hfirst⟩ := exists_ok_of_toOption h
  obtain ⟨hname, hrecurs⟩ := Prod.mk.inj hfirst
  exact ⟨r₁, first, rfl, hname, hrecurs, hagain t r₁ first hr⟩

end

end Reader

end GrammarProject.Descriptor
