import GrammarProject.Command.Scan
import GrammarProject.Platform.Standard
import GrammarProject.Proofs.Literal.Clean

/-!
# What commands hand over

The standard output of a command is what the platform makes of the texts that the command hands over
(`outputs`): notes, findings and complaints are none of them. On a stream that shows texts as they
are, each is a line of its own; on the streams of the standard platform it is without escape
sequences (`standardOutput_standard`).
-/

namespace GrammarProject.Command

@[simp] theorem outputs_nil : outputs [] = [] := rfl

@[simp] theorem outputs_output_cons (text : String) (lines : List Line) :
    outputs (.output text :: lines) = text :: outputs lines := rfl

@[simp] theorem outputs_log_cons (level : Level) (text : String) (lines : List Line) :
    outputs (.log level text :: lines) = outputs lines := rfl

@[simp] theorem outputs_complaint_cons (text : String) (lines : List Line) :
    outputs (.complaint text :: lines) = outputs lines := rfl

@[simp] theorem outputs_append (lines more : List Line) :
    outputs (lines ++ more) = outputs lines ++ outputs more := List.filterMap_append

@[simp] theorem outputs_noteLines (verbose : Bool) (notes : List Descriptor.Note) :
    outputs (noteLines verbose notes) = [] := by
  unfold noteLines
  split
  · simp [outputs, Line.output?]
  · rfl

@[simp] theorem outputs_findingLines (findings : List Descriptor.Finding) :
    outputs (findings.map findingLine) = [] := by
  simp only [outputs, List.filterMap_map, List.filterMap_eq_nil_iff]
  intro f _
  rw [Function.comp_apply, findingLine]
  cases f.severity <;> rfl

@[simp] theorem outputs_map_output (texts : List String) :
    outputs (texts.map Line.output) = texts := by
  simp [outputs, Function.comp_def, Line.output?]

theorem outputs_ofReport (r : Report) : outputs (Transcript.ofReport r).lines = [] := by
  unfold Transcript.ofReport
  split <;> rfl

@[simp] theorem outputs_foundLine_cons (total : Nat) (root : String) (lines : List Line) :
    outputs (foundLine total root :: lines) = outputs lines := rfl

@[simp] theorem outputs_unreadLines (unread total : Nat) :
    outputs (unreadLines unread total) = [] := by
  unfold unreadLines
  split <;> rfl

/-- Texts with a line feed behind each. -/
def fed (texts : List String) : List Char := texts.flatMap fun text => text.toList ++ ['\n']

/-! ## The standard platform -/

def plainText (s : String) : String := String.ofList (Text.withoutEscapes s.toList)

theorem toList_plainText (s : String) : (plainText s).toList = Text.withoutEscapes s.toList :=
  String.toList_ofList

theorem captured_shown (s : String) :
    Platform.Standard.captured (.shown s) = (plainText s).toList ++ ['\n'] := by
  rw [Platform.Standard.captured, Text.withoutEscapes_append (Text.closes_before rfl rfl),
    toList_plainText]
  rfl

theorem standardOutput_standard [Platform]
    (h : ∀ written, Platform.stream written = Platform.Standard.stream written)
    (transcript : Transcript) : transcript.standardOutput =
      String.ofList (Text.plainBreaks (fed ((outputs transcript.lines).map plainText))) := by
  have hshown : (fun s => Platform.Standard.captured (.shown s)) =
      fun s => (plainText s).toList ++ ['\n'] := funext captured_shown
  rw [Transcript.standardOutput, h, Platform.Standard.stream, List.flatMap_map, hshown, fed,
    List.flatMap_map]

theorem plainText_of_clean {s : String} (h : Clean s.toList) : plainText s = s := by
  rw [plainText, h.withoutEscapes, String.ofList_toList]

theorem plainText_append_tab (s other : String) :
    plainText (s ++ "\t" ++ other) = plainText s ++ "\t" ++ plainText other := by
  have hsplit : (s ++ "\t" ++ other).toList = s.toList ++ '\t' :: other.toList := by simp
  rw [← String.toList_inj, toList_plainText, hsplit,
    Text.withoutEscapes_append (Text.closes_before rfl rfl),
    Text.withoutEscapes_cons_of_ne (by decide)]
  simp [toList_plainText]

theorem not_mem_plainText {s : String} {c : Char} (h : c ∉ s.toList) :
    c ∉ (plainText s).toList := by
  rw [toList_plainText]
  exact fun hm => h ((Text.withoutEscapes_sublist _).subset hm)

/-- Lines that end in no carriage return stand there as they are. -/
theorem plainBreaks_fed {texts : List String} (h : ∀ text ∈ texts, '\n' ∉ text.toList)
    (hlast : ∀ text ∈ texts, text.toList.getLast? ≠ some '\r') :
    Text.plainBreaks (fed texts) = fed texts := by
  induction texts with
  | nil => rfl
  | cons text texts ih =>
    obtain ⟨htext, htexts⟩ := List.forall_mem_cons.1 h
    obtain ⟨hend, hends⟩ := List.forall_mem_cons.1 hlast
    have hcons : fed (text :: texts) = text.toList ++ '\n' :: fed texts := by simp [fed]
    rw [hcons, Text.plainBreaks_line htext hend, ih htexts hends]

end GrammarProject.Command
