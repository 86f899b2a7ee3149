import SyncHistory.Log
import SyncHistory.Proofs.Conversation

/-!
# The last lines of a log

`Log.Written` says how lines are written into a file: each is ended by a line feed, with or without a
carriage return before it, and the last one need not be ended unless it is empty. Reading gives the lines
back (`Log.Written.lines_eq`). It goes character by character with the start of the current line at hand,
so all that is needed is what happens at a line feed (`Text.linesFrom_feed`) and before one
(`Text.linesFrom_append`).

What is shown of a log is its tail (`Log.IsTail`), and a shorter tail is the tail of a longer one
(`Log.tail_isTail_tail`).
-/

namespace SyncHistory

/-! ## Lines -/

namespace Text

theorem linesFrom_cons {c : Char} (own : c ≠ '\n') (pending rest : List Char) :
    linesFrom pending (c :: rest) = linesFrom (c :: pending) rest := by
  rw [linesFrom]
  exact own

theorem linesFrom_feed (pending rest : List Char) :
    linesFrom pending ('\n' :: rest) = (dropReturn pending).reverse :: linesFrom [] rest := by
  rw [linesFrom]

theorem linesFrom_nil {pending : List Char} (some : pending ≠ []) :
    linesFrom pending [] = [pending.reverse] := by
  rw [linesFrom]
  exact some

/-- Up to the next line feed characters are put to the current line. -/
theorem linesFrom_append {cs : List Char} (own : '\n' ∉ cs) (pending rest : List Char) :
    linesFrom pending (cs ++ rest) = linesFrom (cs.reverse ++ pending) rest := by
  induction cs generalizing pending with
  | nil => rfl
  | cons c cs ih =>
    rw [List.mem_cons, not_or] at own
    rw [List.cons_append, linesFrom_cons (Ne.symm own.1), ih own.2]
    simp

theorem dropReturn_of_head? {cs : List Char} (other : cs.head? ≠ some '\r') : dropReturn cs = cs := by
  cases cs with
  | nil => rfl
  | cons c cs =>
    rw [dropReturn]
    intro rest same
    simp [(List.cons.inj same).1] at other

end Text

namespace Log

/-- The text can stand as a line: it has no line feed, and no carriage return at its end. -/
structure IsLine (line : String) : Prop where
  noFeed : '\n' ∉ line.toList
  noReturn : line.toList.getLast? ≠ some '\r'

/-- What ends a line. -/
inductive Ending where
  | feed
  | returnFeed
deriving DecidableEq

def Ending.text : Ending → String
  | feed => "\n"
  | returnFeed => "\r\n"

/-- The lines are written in a text one after the other, each with any ending; the last one may be left
without an ending if it is not empty. -/
inductive Written : List String → String → Prop
  | none : Written [] ""
  | last {line : String} (own : IsLine line) (some : line ≠ "") : Written [line] line
  | line {line : String} {lines : List String} {text : String} (own : IsLine line) (ending : Ending)
      (rest : Written lines text) : Written (line :: lines) (line ++ ending.text ++ text)

open Text

/-- A line with its ending is the first one of a text that begins with it. -/
theorem linesFrom_line {line : String} (own : IsLine line) (ending : Ending) (rest : List Char) :
    linesFrom [] (line.toList ++ (ending.text.toList ++ rest)) = line.toList :: linesFrom [] rest := by
  rw [linesFrom_append own.noFeed, List.append_nil]
  cases ending with
  | feed =>
    have kept : dropReturn line.toList.reverse = line.toList.reverse :=
      dropReturn_of_head? (by rw [List.head?_reverse]; exact own.noReturn)
    show linesFrom line.toList.reverse ('\n' :: rest) = _
    rw [linesFrom_feed, kept, List.reverse_reverse]
  | returnFeed =>
    show linesFrom line.toList.reverse ('\r' :: '\n' :: rest) = _
    rw [linesFrom_cons (by decide), linesFrom_feed, dropReturn, List.reverse_reverse]

/-- Reading gives back the lines that were written. -/
theorem Written.lines_eq {lines : List String} {text : String} (written : Written lines text) :
    Text.lines text = lines := by
  induction written with
  | none => rfl
  | @last line own some =>
    have pending : line.toList.reverse ≠ [] := by simpa using some
    have alone := linesFrom_append own.noFeed [] []
    rw [List.append_nil, List.append_nil, linesFrom_nil pending, List.reverse_reverse] at alone
    simp [Text.lines, alone]
  | @line line lines text own ending rest ih =>
    rw [Text.lines] at ih ⊢
    rw [String.toList_append, String.toList_append, List.append_assoc, linesFrom_line own, List.map_cons, ih,
      String.ofList_toList]

/-! ## Tails -/

/-- The list ends in the tail, which has as many elements as are asked for, or all. -/
structure IsTail {α : Type} (count : Nat) (tail list : List α) : Prop where
  suffix : tail <:+ list
  length : tail.length = min count list.length

theorem drop_isTail {α : Type} (count : Nat) (list : List α) :
    IsTail count (list.drop (list.length - count)) list where
  suffix := List.drop_suffix _ list
  length := by
    rw [List.length_drop]
    omega

theorem tail_isTail (count : Nat) (contents : String) :
    IsTail count (tail count contents) (Text.lines contents) :=
  drop_isTail count _

/-- The shorter of two tails of a list is the tail of the longer one. -/
theorem tail_isTail_tail {n m : Nat} (le : n ≤ m) (contents : String) :
    IsTail n (tail n contents) (tail m contents) := by
  have short := tail_isTail n contents
  have long := tail_isTail m contents
  refine ⟨List.suffix_of_suffix_length_le short.suffix long.suffix ?_, ?_⟩
  · rw [short.length, long.length]
    omega
  · rw [short.length, long.length]
    omega

end Log

/-! ## Files -/

theorem FileRead.ofBytes_toUTF8 (contents : String) : FileRead.ofBytes contents.toUTF8 = .text contents := by
  have valid : contents.toUTF8.IsValidUTF8 := contents.isValidUTF8
  rw [ofBytes, String.fromUTF8?, dif_pos valid]
  rfl

/-- The conversation about a file of text. -/
theorem Inquiry.logTail_endsIn (count : Nat) (path contents : String) :
    (ExceptT.run (Inquiry.logTail count (some path))).EndsIn
      [⟨.file path, FileRead.ofBytes contents.toUTF8⟩] (.ok (Log.tail count contents)) := by
  have comes : (ExceptT.run (Inquiry.logTail count (some path))).Converses
      [⟨.file path, .text contents⟩] (.ok (Log.tail count contents)) := .ask (.done _)
  rw [FileRead.ofBytes_toUTF8]
  exact comes.endsIn

/-- **Log tails are exact.** Of lines that were written into a file, with endings of either kind and with
or without one behind the last line, the last ones are shown, in order, as many as are asked for or all that
there are. Of any file of text, what is shown when fewer lines are asked for is the end of what is shown when
more are. -/
theorem log_tail_exact (path : String) :
    (∀ (lines : List String) (text : String), Log.Written lines text → ∀ count : Nat,
      ∃ tail, (ExceptT.run (Inquiry.logTail count (some path))).EndsIn
        [⟨.file path, FileRead.ofBytes text.toUTF8⟩] (.ok tail) ∧ Log.IsTail count tail lines) ∧
    ∀ bytes : ByteArray, bytes.IsValidUTF8 → ∀ n m : Nat, n ≤ m →
      ∃ short long, (ExceptT.run (Inquiry.logTail n (some path))).EndsIn
          [⟨.file path, FileRead.ofBytes bytes⟩] (.ok short) ∧
        (ExceptT.run (Inquiry.logTail m (some path))).EndsIn
          [⟨.file path, FileRead.ofBytes bytes⟩] (.ok long) ∧
        Log.IsTail n short long := by
  constructor
  · intro lines text written count
    refine ⟨Log.tail count text, Inquiry.logTail_endsIn count path text, ?_⟩
    have tail := Log.tail_isTail count text
    rwa [written.lines_eq] at tail
  · intro bytes valid n m le
    obtain ⟨contents, rfl⟩ : ∃ contents : String, contents.toUTF8 = bytes := ⟨String.fromUTF8 bytes valid, rfl⟩
    exact ⟨_, _, Inquiry.logTail_endsIn n path contents, Inquiry.logTail_endsIn m path contents,
      Log.tail_isTail_tail le contents⟩

/-- Three lines with endings of both kinds, one of them empty, a carriage return inside another one, and
none behind the last. -/
theorem log_tail_exact_three :
    let text := "a\rb\r\n\nc"
    Log.Written ["a\rb", "", "c"] text ∧ text.toUTF8.IsValidUTF8 ∧
    (∃ tail, (ExceptT.run (Inquiry.logTail 2 (some "log"))).EndsIn
      [⟨.file "log", FileRead.ofBytes text.toUTF8⟩] (.ok tail) ∧ tail = ["", "c"]) ∧
    ∃ short long, (ExceptT.run (Inquiry.logTail 0 (some "log"))).EndsIn
        [⟨.file "log", FileRead.ofBytes text.toUTF8⟩] (.ok short) ∧
      (ExceptT.run (Inquiry.logTail 9 (some "log"))).EndsIn
        [⟨.file "log", FileRead.ofBytes text.toUTF8⟩] (.ok long) ∧
      Log.IsTail 0 short long := by
  intro text
  have written : Log.Written ["a\rb", "", "c"] text :=
    .line ⟨by decide, by decide⟩ .returnFeed (.line ⟨by decide, by decide⟩ .feed
      (.last ⟨by decide, by decide⟩ (by decide)))
  obtain ⟨tails, shorter⟩ := log_tail_exact "log"
  refine ⟨written, text.isValidUTF8, ?_, shorter _ text.isValidUTF8 0 9 (by decide)⟩
  obtain ⟨tail, ends, isTail⟩ := tails _ _ written 2
  refine ⟨tail, ends, ?_⟩
  have known : ["", "c"] <:+ ["a\rb", "", "c"] := List.suffix_cons _ _
  exact (List.suffix_of_suffix_length_le isTail.suffix known (Nat.le_of_eq isTail.length)).eq_of_length isTail.length

end SyncHistory
