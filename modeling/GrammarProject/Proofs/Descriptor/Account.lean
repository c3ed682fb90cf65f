import GrammarProject.Proofs.Descriptor.Stranding
import Mathlib.Data.List.Count

/-!
# Every reference is accounted for

`Reader.Accounted` says of a reader and the handlings behind it that each include is settled once,
by a grammar or by a finding, or stranded, and that each reference that was handled has led to an
include or to a finding, unless it was a repeat. One element more keeps it (`Accounted.handleAmid`),
so it holds of every run, while the file tree changes in any way (`run_accounted`). No file is
stranded in an encoding that decodes everything; `run_accounted_unmarked` is a run that strands one.
-/

namespace GrammarProject

/-- What a diagnostic about a reference can be. -/
inductive Diagnostic.Topic where
  | emptyReference
  | missingGrammar
  | unreadableGrammar
  | surplusGrammar
deriving DecidableEq, Repr

/-- What a diagnostic is about, by its severity and the start of its message. -/
def Diagnostic.topic? (d : Diagnostic) : Option Topic :=
  match d.severity with
  | .info => some .surplusGrammar
  | .warning =>
    if d.message.startsWith "empty grammar reference in " then some .emptyReference
    else if d.message.startsWith "missing grammar " then some .missingGrammar
    else if d.message.startsWith "failed to parse grammar " then some .unreadableGrammar
    else none

theorem startsWith_append (s s' : String) : (s ++ s').startsWith s = true := by
  rw [String.startsWith_string_iff, String.toList_append]
  exact List.prefix_append _ _

theorem startsWith_append_eq_false {s other : String} (s' : String) {c d : Char}
    (hs : s.toList.head? = some c) (ho : other.toList.head? = some d) (hne : d ≠ c) :
    (s ++ s').startsWith other = false := by
  obtain ⟨cs, hs⟩ := List.head?_eq_some_iff.1 hs
  obtain ⟨ds, ho⟩ := List.head?_eq_some_iff.1 ho
  rw [String.startsWith_string_eq_false_iff, String.toList_append, hs, ho]
  simp [List.cons_prefix_cons, hne]

theorem Diagnostic.topic?_warning (message : String) (path : Option Path) :
    topic? ⟨message, path, .warning⟩ =
      if message.startsWith "empty grammar reference in " then some .emptyReference
      else if message.startsWith "missing grammar " then some .missingGrammar
      else if message.startsWith "failed to parse grammar " then some .unreadableGrammar
      else none := rfl

namespace Descriptor

open Markup (Element)

namespace Finding

def topic : Finding → Diagnostic.Topic
  | emptyReference _ => .emptyReference
  | missingGrammar .. => .missingGrammar
  | unreadableGrammar .. => .unreadableGrammar
  | surplusGrammar .. => .surplusGrammar

theorem message_missingGrammar (file descriptor : Path) :
    ∃ rest, (missingGrammar file descriptor).message = "missing grammar " ++ rest :=
  ⟨_, by
    change "missing grammar " ++ quotedPath file ++ " referenced in " ++ quotedPath descriptor = _
    rw [String.append_assoc, String.append_assoc]⟩

theorem message_unreadableGrammar (file : Path) (cause : Failure) :
    ∃ rest, (unreadableGrammar file cause).message = "failed to parse grammar " ++ rest :=
  ⟨_, by
    change "failed to parse grammar " ++ quotedPath file ++ ": " ++ cause.message = _
    rw [String.append_assoc, String.append_assoc]⟩

/-- A diagnostic shows what it is about. -/
theorem topic?_diagnostic (f : Finding) : f.diagnostic.topic? = some f.topic := by
  have hempty : "empty grammar reference in ".toList.head? = some 'e' := by decide
  have hmissing : "missing grammar ".toList.head? = some 'm' := by decide
  have hfailed : "failed to parse grammar ".toList.head? = some 'f' := by decide
  cases f with
  | emptyReference descriptor =>
    have h : (emptyReference descriptor).message.startsWith "empty grammar reference in " = true :=
      startsWith_append _ _
    exact (Diagnostic.topic?_warning _ _).trans (if_pos h)
  | missingGrammar file descriptor =>
    obtain ⟨rest, hrest⟩ := message_missingGrammar file descriptor
    refine (Diagnostic.topic?_warning _ _).trans ?_
    rw [hrest, startsWith_append_eq_false rest hmissing hempty (by decide),
      startsWith_append, if_neg Bool.false_ne_true, if_pos rfl]
    rfl
  | unreadableGrammar file cause =>
    obtain ⟨rest, hrest⟩ := message_unreadableGrammar file cause
    refine (Diagnostic.topic?_warning _ _).trans ?_
    rw [hrest, startsWith_append_eq_false rest hfailed hempty (by decide),
      startsWith_append_eq_false rest hfailed hmissing (by decide), startsWith_append,
      if_neg Bool.false_ne_true, if_neg Bool.false_ne_true, if_pos rfl]
    rfl
  | surplusGrammar g holder => rfl

/-- The include that a finding settles: the file is there, but its grammar is not taken. -/
def settled? : Finding → Option Path
  | unreadableGrammar file _ => some file
  | surplusGrammar g _ => some g.file
  | _ => none

end Finding

/-! ## Handlings -/

namespace Handling

/-- Whether a reference has been handled, and did not end the reading. -/
def refers [Platform] (h : Handling) : Bool := h.isReference && h.outcome.2.isNone

/-- Whether a reference is one more to a file that is there and is included already. -/
def isRepeat (h : Handling) : Bool :=
  h.isReference && match h.before.leadsTo? h.looks.variants h.element.text with
    | none => false
    | some file => h.looks.files.reaches file.toString && h.before.draft.hasInclude file

end Handling

namespace Reader

variable {hs : List Handling} {r r' : Reader}

/-! ## Diagnostics -/

/-- The diagnostics of a reader that are about one topic. -/
def about (r : Reader) (topic : Diagnostic.Topic) : List Diagnostic :=
  (r.findings.map Finding.diagnostic).filter (·.topic? = some topic)

theorem about_eq (topic : Diagnostic.Topic) :
    r.about topic = (r.findings.filter (·.topic = topic)).map Finding.diagnostic := by
  rw [about, List.filter_map]
  congr 1
  refine List.filter_congr fun f _ => ?_
  simp [Finding.topic?_diagnostic]

theorem length_about (topic : Diagnostic.Topic) :
    (r.about topic).length = r.findings.countP (·.topic = topic) := by
  rw [about_eq, List.length_map, List.countP_eq_length_filter]

theorem mem_about {d : Diagnostic} (h : d ∈ r.findings.map Finding.diagnostic) :
    ∃ topic, d ∈ r.about topic := by
  obtain ⟨f, -, rfl⟩ := List.mem_map.1 h
  exact ⟨f.topic, List.mem_filter.2 ⟨h, by simp [Finding.topic?_diagnostic]⟩⟩

theorem settled_perm_about : ((r.findings.filterMap Finding.settled?).map some).Perm
    ((r.about .unreadableGrammar).map (·.path) ++ (r.about .surplusGrammar).map (·.path)) := by
  rw [about_eq, about_eq]
  induction r.findings with
  | nil => exact .refl _
  | cons f fs ih =>
    cases f with
    | emptyReference descriptor => exact ih
    | missingGrammar file descriptor => exact ih
    | unreadableGrammar file cause => exact ih.cons _
    | surplusGrammar g holder => exact (ih.cons (some g.file)).trans List.perm_middle.symm

/-! ## The account -/

theorem countP_singleton (p : Handling → Bool) (h : Handling) : [h].countP p = (p h).toNat := by
  cases hp : p h <;> simp [hp]

section
variable [Platform]

/-- **Includes and references are accounted for.** -/
structure Accounted (hs : List Handling) (r : Reader) : Prop where
  includes_nodup : r.draft.includes.Nodup
  settled_perm : (r.draft.grammars.map (·.file) ++ r.findings.filterMap Finding.settled? ++
    hs.filterMap Handling.stranded?).Perm r.draft.includes
  balance : hs.countP Handling.refers + (hs.filterMap Handling.stranded?).length =
    r.draft.includes.length + r.findings.countP (·.topic = .emptyReference) +
      r.findings.countP (·.topic = .missingGrammar) + hs.countP Handling.isRepeat

theorem filterMap_stranded?_singleton (h : Handling) :
    [h].filterMap Handling.stranded? = h.stranded?.toList := by
  cases hs : h.stranded? <;> simp [hs]

/-- What settles no include: a handling that adds findings of no file that is there. -/
theorem Accounted.pass (h : Accounted hs r) {handling : Handling} {added : List Finding}
    (hi : r'.draft.includes = r.draft.includes)
    (hg : r'.draft.grammars = r.draft.grammars) (hf : r'.findings = r.findings ++ added)
    (hsettled : added.filterMap Finding.settled? = []) (hstranded : handling.stranded? = none)
    (hbalance : handling.refers.toNat = added.countP (·.topic = .emptyReference) +
      added.countP (·.topic = .missingGrammar) + handling.isRepeat.toNat) :
    Accounted (hs ++ [handling]) r' := by
  refine ⟨hi ▸ h.includes_nodup, ?_, ?_⟩
  · rw [hg, hf, hi, List.filterMap_append, List.filterMap_append, filterMap_stranded?_singleton,
      hsettled, hstranded, Option.toList_none, List.append_nil, List.append_nil]
    exact h.settled_perm
  · rw [hi, hf, List.countP_append, List.countP_append, List.countP_append, List.countP_append,
      List.filterMap_append, List.length_append, countP_singleton, countP_singleton, hbalance,
      filterMap_stranded?_singleton, hstranded, Option.toList_none, List.length_nil]
    have hbefore := h.balance
    omega

theorem Accounted.include (h : Accounted hs r) {handling : Handling} {file : Path}
    {grammars : List Grammar} {added : List Finding}
    (hm : file ∉ r.draft.includes) (hi : r'.draft.includes = r.draft.includes ++ [file])
    (hg : r'.draft.grammars = r.draft.grammars ++ grammars) (hf : r'.findings = r.findings ++ added)
    (hsettled : grammars.map (·.file) ++ added.filterMap Finding.settled? ++
      handling.stranded?.toList = [file])
    (hempty : added.countP (·.topic = .emptyReference) = 0)
    (hmissing : added.countP (·.topic = .missingGrammar) = 0)
    (hrefers : handling.refers = handling.stranded?.isNone) (hrepeat : handling.isRepeat = false) :
    Accounted (hs ++ [handling]) r' := by
  refine ⟨?_, ?_, ?_⟩
  · rw [hi]
    exact List.nodup_append.2 ⟨h.includes_nodup, by simp, fun a ha b hb he => hm (by simp_all)⟩
  · rw [hi, hg, hf, List.map_append, List.filterMap_append, List.filterMap_append,
      filterMap_stranded?_singleton, ← hsettled]
    refine List.perm_iff_count.2 fun p => ?_
    have hp := List.perm_iff_count.1 h.settled_perm p
    simp only [List.count_append] at hp ⊢
    omega
  · have hone : handling.refers.toNat + handling.stranded?.toList.length = 1 := by
      rw [hrefers]
      cases handling.stranded? <;> rfl
    rw [hi, hf, List.countP_append, List.countP_append, List.countP_append, List.countP_append,
      List.filterMap_append, List.length_append, List.length_append, countP_singleton,
      countP_singleton, filterMap_stranded?_singleton, hempty, hmissing, hrepeat]
    have hbefore := h.balance
    simp only [List.length_singleton, Bool.toNat_false]
    omega

section
variable {l : Looks} {e : Element} (he : Field.ofElement? e = some .grammar)
include he

theorem refers_reference : Handling.refers ⟨r, l, e⟩ = (r.onGrammarAmid l e.text).2.isNone := by
  simp [Handling.refers, Handling.isReference, Handling.outcome, handleAmid, handleFieldAmid, he]

omit [Platform] in
theorem isRepeat_reference : Handling.isRepeat ⟨r, l, e⟩ = match r.leadsTo? l.variants e.text with
    | none => false
    | some file => l.files.reaches file.toString && r.draft.hasInclude file := by
  simp [Handling.isRepeat, Handling.isReference, he]

theorem Accounted.handled (h : Accounted hs r) (hr : r.onGrammarAmid l e.text = (r', none)) :
    Accounted (hs ++ [⟨r, l, e⟩]) r' := by
  have hrefers := refers_reference (r := r) (l := l) he
  have hrepeat := isRepeat_reference (r := r) (l := l) he
  have hstranded : Handling.stranded? ⟨r, l, e⟩ = none :=
    Handling.stranded?_of_handled (by rw [Handling.outcome_reference he, hr])
  rw [hr] at hrefers
  rw [onGrammarAmid_eq] at hr
  cases hto : r.leadsTo? l.variants e.text with
  | none =>
    rw [hto] at hr hrepeat
    cases hr
    exact h.pass rfl rfl rfl rfl hstranded (by simp [hrefers, hrepeat, Finding.topic])
  | some file =>
    rw [hto] at hr hrepeat
    dsimp only at hr hrepeat
    obtain ⟨there, hp, hcases⟩ := recordReference_returns hr
    rw [isThere_ok hp] at hrepeat
    rcases hcases with ⟨rfl, rfl⟩ | ⟨rfl, hm, rfl⟩ | ⟨rfl, hm, hi, hcases⟩
    · exact h.pass rfl rfl rfl rfl hstranded (by simp [hrefers, hrepeat, Finding.topic])
    · rw [Draft.hasInclude_iff.2 hm] at hrepeat
      exact h.pass rfl rfl (List.append_nil _).symm rfl hstranded (by simp [hrefers, hrepeat])
    · rw [Bool.eq_false_iff.2 fun hc => hm (Draft.hasInclude_iff.1 hc)] at hrepeat
      have hone : Handling.refers ⟨r, l, e⟩ = (Handling.stranded? ⟨r, l, e⟩).isNone := by
        rw [hrefers, hstranded]
        rfl
      rcases hcases with ⟨f, -, hg, hf⟩ | ⟨g, hread, -, hg, hf⟩ | ⟨g, holder, hread, -, hg, hf⟩
      · refine h.include hm hi (hg.trans (List.append_nil _).symm) hf ?_ rfl rfl hone hrepeat
        simp [hstranded, Finding.settled?]
      · refine h.include hm hi hg (hf.trans (List.append_nil _).symm) ?_ rfl rfl hone hrepeat
        simp [hstranded, Grammar.file_of_read hread]
      · refine h.include hm hi (hg.trans (List.append_nil _).symm) hf ?_ rfl rfl hone hrepeat
        simp [hstranded, Finding.settled?, Grammar.file_of_read hread]

theorem Accounted.stranded (h : Accounted hs r) {file : Path}
    (hs' : Handling.Strands ⟨r, l, e⟩ file) :
    Accounted (hs ++ [⟨r, l, e⟩]) (r.onGrammarAmid l e.text).1 := by
  obtain ⟨f, -, -, ho⟩ := Handling.outcome_of_strands hs'
  have hrepeat := isRepeat_reference (r := r) (l := l) he
  have hstranded := Handling.stranded?_eq_some_iff.2 hs'
  have hfresh : r.draft.hasInclude file = false :=
    Bool.eq_false_iff.2 fun hc => hs'.fresh (Draft.hasInclude_iff.1 hc)
  rw [hs'.leads] at hrepeat
  rw [Handling.outcome_reference he] at ho
  have hrefers := refers_reference (r := r) (l := l) he
  rw [ho] at hrefers
  rw [ho]
  exact h.include hs'.fresh rfl (List.append_nil _).symm (List.append_nil _).symm
    (by simp [hstranded]) rfl rfl (by simp [hrefers, hstranded]) (by simp [hrepeat, hfresh])

/-- **One reference keeps the account**, whether it is handled or not. -/
theorem Accounted.onGrammarAmid (h : Accounted hs r) :
    Accounted (hs ++ [⟨r, l, e⟩]) (r.onGrammarAmid l e.text).1 := by
  rcases hr : r.onGrammarAmid l e.text with ⟨r', _ | f⟩
  · exact h.handled he hr
  · have ho : Handling.outcome ⟨r, l, e⟩ = (r', some f) := (Handling.outcome_reference he).trans hr
    rcases Handling.reference_fails he (congrArg Prod.snd ho) with
      ⟨hsame, file, hto, hreaches⟩ | ⟨file, hs'⟩
    · -- The file cannot be looked for, so it is no repeat either.
      have hrefers := refers_reference (r := r) (l := l) he
      have hrepeat := isRepeat_reference (r := r) (l := l) he
      have hstranded : Handling.stranded? ⟨r, l, e⟩ = none := by
        rw [Handling.stranded?_eq_none_iff]
        intro other hs'
        obtain rfl : file = other := Option.some.inj (hto.symm.trans hs'.leads)
        rw [hs'.there] at hreaches
        cases hreaches
      rw [ho] at hsame
      obtain rfl : r' = r := hsame
      rw [hr] at hrefers
      rw [hto] at hrepeat
      exact h.pass rfl rfl (List.append_nil _).symm rfl hstranded
        (by simp [hrefers, hrepeat, hreaches])
    · have hstep := h.stranded he hs'
      rwa [hr] at hstep

end

theorem Accounted.handleAmid (h : Accounted hs r) (l : Looks) (e : Element) :
    Accounted (hs ++ [⟨r, l, e⟩]) (r.handleAmid l e).1 := by
  by_cases he : Field.ofElement? e = some .grammar
  · have hstep := h.onGrammarAmid (l := l) he
    have heq : r.handleAmid l e = r.onGrammarAmid l e.text := by
      simp [Reader.handleAmid, he, handleFieldAmid]
    rwa [heq]
  · have href := Handling.not_isReference (h := ⟨r, l, e⟩) he
    obtain ⟨hi, hg, hf⟩ := handleAmid_samePart (l := l) (r := r) he
    exact h.pass hi hg (hf.trans (List.append_nil _).symm) rfl (by simp [Handling.stranded?, href])
      (by simp [Handling.refers, Handling.isRepeat, href])

theorem Accounted.run (h : Accounted [] r) (actions : List Action) :
    Accounted (r.handlings actions) (r.run actions) :=
  run_induction (fun _ _ l e h => h.handleAmid l e) (fun _ _ h => ⟨h.1, h.2, h.3⟩) h actions

/-! ## What is told -/

theorem Accounted.count_include (h : Accounted hs r) (p : Path) :
    (r.draft.grammars.map (·.file)).count p +
        ((r.about .unreadableGrammar).map (·.path)).count (some p) +
        ((r.about .surplusGrammar).map (·.path)).count (some p) +
        (hs.filterMap Handling.stranded?).count p =
      if p ∈ r.draft.includes then 1 else 0 := by
  have hsettled := List.perm_iff_count.1 h.settled_perm p
  have htold := List.perm_iff_count.1 (settled_perm_about (r := r)) (some p)
  rw [List.count_map_of_injective _ _ (fun _ _ => Option.some.inj), List.count_append] at htold
  rw [List.count_append, List.count_append, h.includes_nodup.count] at hsettled
  omega

theorem Accounted.path_mem_includes (h : Accounted hs r) {d : Diagnostic}
    (hd : d ∈ r.about .unreadableGrammar ++ r.about .surplusGrammar) :
    ∃ p ∈ r.draft.includes, d.path = some p := by
  have hmem : d.path ∈ (r.about .unreadableGrammar).map (·.path) ++
      (r.about .surplusGrammar).map (·.path) := by
    rw [← List.map_append]
    exact List.mem_map_of_mem hd
  obtain ⟨p, hp, hpath⟩ := List.mem_map.1 (settled_perm_about.symm.subset hmem)
  exact ⟨p, h.settled_perm.subset (List.mem_append_left _ (List.mem_append_right _ hp)),
    hpath.symm⟩

theorem Accounted.length_includes (h : Accounted hs r) : r.draft.includes.length =
    r.draft.grammars.length + (r.about .unreadableGrammar).length +
      (r.about .surplusGrammar).length + (hs.filterMap Handling.stranded?).length := by
  have hsettled := h.settled_perm.length_eq
  have htold := (settled_perm_about (r := r)).length_eq
  simp only [List.length_append, List.length_map] at hsettled htold
  omega

/-- A repeat leaves the reader as it is, without a word. -/
theorem outcome_of_isRepeat {handling : Handling} (h : handling.isRepeat = true) :
    handling.outcome = (handling.before, none) := by
  obtain ⟨r, l, e⟩ := handling
  obtain ⟨href, h⟩ := Bool.and_eq_true_iff.1 h
  have he : Field.ofElement? e = some .grammar := by simpa [Handling.isReference] using href
  have houtcome : Handling.outcome ⟨r, l, e⟩ = r.onGrammarAmid l e.text := by
    simp [Handling.outcome, Reader.handleAmid, he, handleFieldAmid]
  dsimp only at h ⊢
  rw [houtcome, onGrammarAmid_eq]
  cases hto : r.leadsTo? l.variants e.text with
  | none =>
    rw [hto] at h
    cases h
  | some file =>
    rw [hto] at h
    obtain ⟨hreaches, hi⟩ := Bool.and_eq_true_iff.1 h
    dsimp only
    rw [isThere_of_reaches hreaches, recordReference]
    exact if_pos hi

/-- **Every include is settled once or stranded, and every reference is accounted for**, whatever
the reader has been through while the file tree changes in any way: an include has a grammar, or a
warning that it cannot be read, or a remark, or it is stranded, and just one of them; a reference
that is handled adds an include, or is empty or missing, or repeats another without a word. A file
is stranded by a reference that fails since the file is not decoded, and none is in an encoding that
decodes everything. -/
theorem run_accounted (path encoding : String) (target : Target) (actions : List Action) :
    let handled := (ofPath path target encoding).handlings actions
    let r := (ofPath path target encoding).run actions
    let failed := r.about .unreadableGrammar
    let remarks := r.about .surplusGrammar
    let stranded := handled.filterMap Handling.stranded?
    r.draft.includes.Nodup ∧
      (∀ p, (r.draft.grammars.map (·.file)).count p + (failed.map (·.path)).count (some p) +
        (remarks.map (·.path)).count (some p) + stranded.count p =
          if p ∈ r.draft.includes then 1 else 0) ∧
      (∀ d ∈ failed ++ remarks, ∃ p ∈ r.draft.includes, d.path = some p) ∧
      (∀ d ∈ r.findings.map Finding.diagnostic, ∃ topic, d ∈ r.about topic) ∧
      r.draft.includes.length =
        r.draft.grammars.length + failed.length + remarks.length + stranded.length ∧
      handled.countP Handling.refers + stranded.length = r.draft.includes.length +
        (r.about .emptyReference).length + (r.about .missingGrammar).length +
        handled.countP Handling.isRepeat ∧
      (∀ h ∈ handled, h.isRepeat = true → h.outcome = (h.before, none)) ∧
      (∀ h ∈ handled, ∀ file, h.stranded? = some file →
        ∃ f, Grammar.read h.looks.headers file h.before.encoding = .error f ∧
          (f = .unusableEncoding ∨ ∃ fault, f = .codec fault) ∧
          h.outcome = ({ h.before with draft := h.before.draft.addInclude file }, some f)) ∧
      (Grammar.DecodesAll encoding → stranded = []) := by
  intro handled r failed remarks stranded
  have hstart : Accounted [] (ofPath path target encoding) := ⟨List.nodup_nil, .refl _, rfl⟩
  have h := hstart.run actions
  refine ⟨h.includes_nodup, h.count_include, fun d => h.path_mem_includes, fun d => mem_about,
    h.length_includes, ?_, fun handling _ => outcome_of_isRepeat,
    fun handling _ file hs => Handling.outcome_of_strands (Handling.stranded?_eq_some_iff.1 hs),
    fun hall => List.filterMap_eq_nil_iff.2 fun handling hm =>
      Handling.stranded?_eq_none_iff.2 fun file => Handling.not_strands_of_decodesAll ?_⟩
  · rw [length_about, length_about]
    exact h.balance
  · have hsettings := (settings_handlings (ofPath path target encoding) actions).2 handling hm
    rw [show handling.before.encoding = encoding from congrArg (·.2.2.2.1) hsettings]
    exact hall

end

section
open scoped Platform

/-- A grammar file that is missing at first, then cannot be read, then is there again; another whose
kind is taken when it appears between two handlings; and an empty reference. -/
def changing : List Action :=
  let text (s : String) : Node := .file (Text.utf8Bytes s.toList)
  let before : FileTree := ⟨[(["G.g4"], text "grammar G;")], []⟩
  let broken : FileTree := ⟨(["F.g4"], text "no header") :: before.entries, []⟩
  let after : FileTree := ⟨(["H.g4"], text "grammar H;") :: broken.entries, []⟩
  let reference (s : String) : Element := ⟨⟨none, "include".toList⟩, s.toList⟩
  [.handle (.still before) (reference "F.g4"),
    .handle ⟨before, broken, broken, before⟩ (reference "F.g4"),
    .read (.ok (Text.utf8Bytes "<p><include>G.g4</include><include/></p>".toList))
      fun _ => .still before,
    .handle (.still after) (reference "F.g4"), .handle (.still after) (reference "H.g4")]

theorem run_accounted_changing :
    Grammar.DecodesAll "utf-8" ∧
      ((ofPath "pom.xml" .go "utf-8").handlings changing).map Handling.refers =
        [true, true, true, true, false, true, true] ∧
      ((ofPath "pom.xml" .go "utf-8").handlings changing).map Handling.isRepeat =
        [false, false, false, false, false, true, false] ∧
      let handled := (ofPath "pom.xml" .go "utf-8").handlings changing
      let r := (ofPath "pom.xml" .go "utf-8").run changing
      let failed := r.about .unreadableGrammar
      let remarks := r.about .surplusGrammar
      handled.filterMap Handling.stranded? = [] ∧
        r.draft.includes.length = r.draft.grammars.length + failed.length + remarks.length := by
  have hall : Grammar.DecodesAll "utf-8" := Grammar.decodesAll_of_named? (by decide)
  obtain ⟨-, -, -, -, hlength, -, -, -, hnone⟩ := run_accounted "pom.xml" "utf-8" .go changing
  obtain ⟨hrefers, hrepeats⟩ :
      ((ofPath "pom.xml" .go "utf-8").handlings changing).map Handling.refers =
          [true, true, true, true, false, true, true] ∧
        ((ofPath "pom.xml" .go "utf-8").handlings changing).map Handling.isRepeat =
          [false, false, false, false, false, true, false] := by
    rw [changing, String.toList_ofList]
    decide +kernel
  refine ⟨hall, hrefers, hrepeats, hnone hall, hlength.trans ?_⟩
  rw [hnone hall, List.length_nil, Nat.add_zero]

/-- **A file that is stranded in a known encoding**: a text that has to begin with a byte order mark
and does not. The file is included, without a grammar and without a finding. -/
theorem run_accounted_unmarked :
    let t : FileTree := ⟨[(["Foo.g4"], .file (Text.utf8Bytes "grammar Foo;".toList))], []⟩
    let e : Element := ⟨⟨none, "include".toList⟩, "Foo.g4".toList⟩
    let r := (ofPath "pom.xml" .go "utf-16").run [.handle (.still t) e, .handle (.still t) e]
    ((ofPath "pom.xml" .go "utf-16").handle t e).2.map (·.message) =
        some "UTF-16 stream does not start with BOM" ∧
      r.draft.includes = [.ofString "Foo.g4"] ∧ r.draft.grammars = [] ∧
      r.findings.map Finding.diagnostic = [] := by
  decide +kernel

end

end Reader

end Descriptor

end GrammarProject
