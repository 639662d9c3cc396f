import SourceTrace.Console
import SourceTrace.Proofs.Text.Joining

/-!
# Messages that are printed once

A message that may not be repeated is printed only if no such message had its text before, whatever
the levels. The record of texts is a function of all messages so far: `isRecorded_postAll_iff` says
which texts it holds, and `messages_printed_once` which messages are printed. A warning is held back
by another one only if both have the same category and the same wording, because the tag at the end
of a warning can be told from its wording even where the wording ends in a tag of its own.
-/

namespace SourceTrace

/-- A message is news after earlier ones: it may be repeated, or none of them that may not be
repeated had its text. -/
def Message.IsNews (earlier : List Message) (message : Message) : Prop :=
  message.repeatable = true ∨
    ∀ other ∈ earlier, other.repeatable = false → other.text ≠ message.text

section Warnings

/-- Categories have different codes. -/
theorem Category.code_injective {category other : Category} (same : category.code = other.code) :
    category = other := by
  cases category <;> cases other <;> first | rfl | exact absurd same (by decide)

/-- The tag of a category has no opening bracket. -/
theorem Category.bracket_not_mem_code (category : Category) : '[' ∉ category.code.toList := by
  cases category <;> decide

/-- Warnings with the same full text have the same category and the same wording. -/
theorem Message.warning_text_inj {category other : Category} {text wording : String}
    (same : (Message.warning category text).text = (Message.warning other wording).text) :
    category = other ∧ text = wording := by
  have listed := congrArg String.toList same
  simp only [Message.warning, String.toList_append, List.append_assoc] at listed
  have tagged : text.toList ++ [' '] ++ '[' :: category.code.toList =
      wording.toList ++ [' '] ++ '[' :: other.code.toList := by
    have unmarked := List.append_cancel_left listed
    rw [show " [".toList = [' ', '['] from rfl] at unmarked
    have closed : text.toList ++ [' '] ++ '[' :: category.code.toList ++ "]".toList =
        wording.toList ++ [' '] ++ '[' :: other.code.toList ++ "]".toList := by
      simpa using unmarked
    exact List.append_cancel_right closed
  obtain ⟨worded, coded⟩ := Text.append_cons_inj_of_not_mem tagged category.bracket_not_mem_code
    other.bracket_not_mem_code
  exact ⟨Category.code_injective (String.toList_inj.mp coded),
    String.toList_inj.mp (List.append_cancel_right worded)⟩

/-- A warning before a warning matters only if both have the same category and the same wording. -/
theorem Message.warning_isNews_iff (before between : List Message) (category other : Category)
    (text wording : String) :
    (Message.warning other wording).IsNews (before ++ Message.warning category text :: between) ↔
      (Message.warning other wording).IsNews (before ++ between) ∧
        ¬(category = other ∧ text = wording) := by
  have sameText : (Message.warning category text).text = (Message.warning other wording).text ↔
      category = other ∧ text = wording := by
    refine ⟨Message.warning_text_inj, ?_⟩
    rintro ⟨rfl, rfl⟩
    rfl
  have once (category : Category) (text : String) :
      (Message.warning category text).repeatable = false := rfl
  rw [← sameText]
  simp only [Message.IsNews, once, Bool.false_eq_true, false_or, List.mem_append, List.mem_cons]
  constructor
  · intro news
    exact ⟨fun message mem => news message (mem.imp_right Or.inr),
      news _ (Or.inr (Or.inl rfl)) (once category text)⟩
  · rintro ⟨news, apart⟩ message (mem | rfl | mem) unrepeatable
    · exact news message (Or.inl mem) unrepeatable
    · exact apart
    · exact news message (Or.inr mem) unrepeatable

end Warnings

namespace Console

variable (console : Console)

/-- A message is printed when it is posted after earlier ones: its line is all that is added to what
was printed. -/
def Prints (earlier : List Message) (message : Message) : Prop :=
  (console.postAll (earlier ++ [message])).printed =
    (console.postAll earlier).printed ++ [(.err, message.render console.colored ++ "\n")]

/-- The last message is posted behind all others. -/
theorem postAll_append_singleton (earlier : List Message) (message : Message) :
    console.postAll (earlier ++ [message]) = (console.postAll earlier).post message := by
  rw [postAll, List.foldl_append]
  rfl

@[simp] theorem colored_post (message : Message) :
    (console.post message).colored = console.colored := by
  simp only [post, print, record]
  split
  · split <;> rfl
  · rfl

@[simp] theorem colored_postAll (messages : List Message) :
    (console.postAll messages).colored = console.colored := by
  induction messages generalizing console with
  | nil => rfl
  | cons message rest inductionHypothesis =>
    exact (inductionHypothesis (console.post message)).trans (console.colored_post message)

/-- A message that is admitted is printed as a line of its own. -/
theorem printed_post (message : Message) (admitted : console.admits message = true) :
    (console.post message).printed =
      console.printed ++ [(.err, message.render console.colored ++ "\n")] := by
  simp only [post, admitted, if_true, print, record]
  split <;> rfl

/-- A message that may be printed is one that may be repeated or whose text is not recorded. -/
theorem admits_iff (message : Message) :
    console.admits message = true ↔
      message.repeatable = true ∨ ¬console.isRecorded message.text = true := by
  simp [admits]

/-- A message that is held back has nothing new to record. -/
theorem recorded_post (message : Message) :
    (console.post message).recorded = (console.record message).recorded := by
  simp only [post]
  split
  · rfl
  · rename_i refused
    rw [admits_iff, not_or, Decidable.not_not] at refused
    simp [record, refused.2]

/-- Posting a message records its text unless it may be repeated, and nothing else. -/
theorem isRecorded_post_iff (message : Message) (text : String) :
    (console.post message).isRecorded text = true ↔
      console.isRecorded text = true ∨ message.repeatable = false ∧ message.text = text := by
  rw [isRecorded, recorded_post, record]
  split
  · rename_i settled
    rw [Bool.or_eq_true] at settled
    refine ⟨Or.inl, ?_⟩
    rintro (recorded | ⟨once, rfl⟩)
    · exact recorded
    · exact settled.resolve_left (by simp [once])
  · rename_i new
    rw [Bool.or_eq_true, not_or, Bool.not_eq_true] at new
    simp only [isRecorded, List.contains_cons, Bool.or_eq_true, beq_iff_eq, new.1, true_and]
    rw [or_comm, @eq_comm _ text]

/-- A text is recorded exactly if it was before or a message that may not be repeated had it. -/
theorem isRecorded_postAll_iff (messages : List Message) (text : String) :
    (console.postAll messages).isRecorded text = true ↔
      console.isRecorded text = true ∨
        ∃ message ∈ messages, message.repeatable = false ∧ message.text = text := by
  induction messages generalizing console with
  | nil => simp [postAll]
  | cons message rest inductionHypothesis =>
    have posted : console.postAll (message :: rest) = (console.post message).postAll rest := rfl
    simp only [posted, inductionHypothesis, isRecorded_post_iff, List.mem_cons, or_and_right,
      exists_or, exists_eq_left, or_assoc]

/-- A message is printed exactly if the console admits it after the earlier ones. -/
theorem prints_iff_admits (earlier : List Message) (message : Message) :
    console.Prints earlier message ↔ (console.postAll earlier).admits message = true := by
  rw [Prints, postAll_append_singleton]
  constructor
  · intro printed
    apply Decidable.byContradiction
    intro refused
    rw [post, if_neg refused] at printed
    exact List.cons_ne_nil _ _ (List.self_eq_append_right.mp printed)
  · intro admitted
    rw [printed_post _ _ admitted, colored_postAll]

/-- A console without records prints exactly the messages that are news. -/
theorem prints_iff_isNews (empty : console.recorded = []) (earlier : List Message)
    (message : Message) : console.Prints earlier message ↔ message.IsNews earlier := by
  rw [prints_iff_admits, admits_iff, isRecorded_postAll_iff, Message.IsNews]
  simp [isRecorded, empty]

/-- Messages are printed exactly once. From an empty record a message is printed exactly if it is
news after the messages before it, and it changes nothing otherwise; a text is recorded exactly if a
message that may not be repeated had it. A warning holds back another one, whatever is posted before
them and between them, exactly if both have the same category and the same wording. -/
theorem messages_printed_once (colored : Bool) (printed : List (Channel × String)) :
    let start : Console := { colored, printed }
    (∀ earlier message, start.Prints earlier message ↔ message.IsNews earlier) ∧
    (∀ earlier message, start.Prints earlier message ∨
      start.postAll (earlier ++ [message]) = start.postAll earlier) ∧
    (∀ messages text, (start.postAll messages).isRecorded text = true ↔
      ∃ message ∈ messages, message.repeatable = false ∧ message.text = text) ∧
    (∀ before between category other text wording,
      start.Prints (before ++ Message.warning category text :: between)
          (Message.warning other wording) ↔
        start.Prints (before ++ between) (Message.warning other wording) ∧
          ¬(category = other ∧ text = wording)) := by
  intro start
  refine ⟨start.prints_iff_isNews rfl, ?_, ?_, ?_⟩
  · intro earlier message
    rw [prints_iff_admits, postAll_append_singleton, post]
    split
    · rename_i admitted
      exact Or.inl admitted
    · exact Or.inr rfl
  · intro messages text
    rw [isRecorded_postAll_iff]
    simp [start, isRecorded]
  · intro before between category other text wording
    rw [prints_iff_isNews _ rfl, prints_iff_isNews _ rfl]
    exact Message.warning_isNews_iff before between category other text wording

end Console

end SourceTrace
