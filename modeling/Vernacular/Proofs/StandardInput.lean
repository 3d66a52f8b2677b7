import Mathlib
import Vernacular.Library.Core
/-!
# Reading lines of standard input

`input()` reads through a buffered reader: first the reader's buffer, then
the rest of the stream. One call gives the first line of what its reader has
pending and leaves the rest pending (`input_run`), so successive calls through
one reader give the successive lines, each once, and `null` after the last
(`input_reads_lines`).

Every global scope has a reader of its own, and a reader that refills takes
up to 4096 bytes of the stream at once. The lines it has buffered are then out
of reach of the readers of other global scopes: after one scope reads the first
line of a short stream, the stream is empty for every other scope
(`input_drains_short_stream`, `input_of_drained`).
-/

set_option autoImplicit false

namespace Vernacular

namespace Library

/-- The line break byte. -/
abbrev lineBreak : UInt8 := byte '\n'

/-- The first line of some bytes, up to and including the first line break,
and the bytes after it; without a line break the line is all of them. -/
def splitLine : List UInt8 → List UInt8 × List UInt8
  | [] => ([], [])
  | b :: rest =>
    if b = lineBreak then ([b], rest)
    else ((b :: (splitLine rest).1), (splitLine rest).2)

@[simp] theorem splitLine_nil : splitLine [] = ([], []) := rfl

theorem splitLine_fst_eq_nil {bs : List UInt8} : (splitLine bs).1 = [] ↔ bs = [] := by
  cases bs with
  | nil => simp
  | cons b rest => by_cases isBreak : b = lineBreak <;> simp [splitLine, isBreak]

theorem splitLine_append (bs : List UInt8) : (splitLine bs).1 ++ (splitLine bs).2 = bs := by
  induction bs with
  | nil => rfl
  | cons b rest ih => by_cases isBreak : b = lineBreak <;> simp [splitLine, isBreak, ih]

theorem splitLine_append_of_not_mem {bs : List UInt8} (noBreak : lineBreak ∉ bs) (rest : List UInt8) :
    splitLine (bs ++ rest) = (bs ++ (splitLine rest).1, (splitLine rest).2) := by
  induction bs with
  | nil => rfl
  | cons b bs ih =>
    simp only [List.mem_cons, not_or] at noBreak
    simp [splitLine, Ne.symm noBreak.1, ih noBreak.2]

theorem splitLine_append_of_findIdx {bs : List UInt8} {i : Nat}
    (found : bs.findIdx? (· == lineBreak) = some i) (rest : List UInt8) :
    splitLine (bs ++ rest) = (bs.take (i + 1), bs.drop (i + 1) ++ rest) := by
  induction bs generalizing i with
  | nil => simp at found
  | cons b bs ih =>
    by_cases isBreak : b = lineBreak
    · simp [List.findIdx?_cons, isBreak] at found
      subst found
      simp [splitLine, isBreak]
    · simp [List.findIdx?_cons, isBreak] at found
      obtain ⟨j, found, rfl⟩ := found
      simp [splitLine, isBreak, ih found]

/-- Enough fuel for a reader with `buffered` bytes and `input` bytes of the
stream left to find its next line: every refill that fills the buffer is
followed by a flush, and each such pair takes 4096 bytes of the stream. -/
def readFuel (buffered input : Nat) : Nat :=
  if 4096 ≤ buffered then 2 * (input / 4096) + 3
  else if input = 0 then 1
  else 2 * ((buffered + input) / 4096) + 2

theorem readFuel_le (buffered input : Nat) : readFuel buffered input ≤ input + buffered + 2 := by
  unfold readFuel
  repeat' split
  all_goals omega

/-- With enough fuel the reader's loop gives the first line of what it has
buffered and what is left of the stream, keeps the rest in its buffer or in
the stream, and has taken a prefix of the stream: all of it when the buffer
holds no line break and the stream fits beside it. -/
theorem readLine_go_spec (fuel : Nat) (acc buf input : List UInt8)
    (enough : readFuel buf.length input.length ≤ fuel) :
    ∃ buf' input', readLine.go fuel acc buf input =
      (acc ++ (splitLine (buf ++ input)).1, buf', input', !(buf ++ input).contains lineBreak) ∧
      buf' ++ input' = (splitLine (buf ++ input)).2 ∧ (∃ k, input' = input.drop k) ∧
      (lineBreak ∉ buf → buf.length + input.length ≤ 4096 → input' = []) := by
  induction fuel generalizing acc buf input with
  | zero =>
    unfold readFuel at enough
    repeat' split at enough
    all_goals omega
  | succ fuel ih =>
    unfold readLine.go
    cases found : buf.findIdx? (· == byte '\n') with
    | some i =>
      have hasBreak : lineBreak ∈ buf := by
        obtain ⟨bound, isBreak, -⟩ := List.findIdx?_eq_some_iff_getElem.mp found
        simpa [beq_iff_eq.mp isBreak] using List.getElem_mem bound
      refine ⟨buf.drop (i + 1), input, ?_, ?_, ⟨0, rfl⟩, fun noBreak => absurd hasBreak noBreak⟩
      · simp [splitLine_append_of_findIdx found, hasBreak]
      · simp [splitLine_append_of_findIdx found]
    | none =>
      have noBreak : lineBreak ∉ buf := fun inBuf => by
        simpa using List.findIdx?_eq_none_iff.mp found _ inBuf
      simp only [splitLine_append_of_not_mem noBreak]
      split
      · -- a full buffer without a line break moves into the line and is refilled
        have flushed : readFuel 0 input.length ≤ fuel := by
          unfold readFuel at enough ⊢
          repeat' split at enough
          all_goals (repeat' split) <;> omega
        obtain ⟨buf', input', ran, kept, taken, drained⟩ := ih (acc ++ buf) [] input flushed
        refine ⟨buf', input', ?_, by simpa using kept, taken, fun _ fits => drained (by simp) (by simp; omega)⟩
        simp [ran, noBreak]
      · split
        · rename_i ended
          simp at ended
          subst ended
          refine ⟨[], [], ?_, by simp, ⟨0, rfl⟩, fun _ _ => rfl⟩
          simp [noBreak]
        · -- the buffer is topped up to 4096 bytes from the stream
          rename_i small ended
          have refilled : readFuel (buf ++ input.take (4096 - buf.length)).length
              (input.drop (4096 - buf.length)).length ≤ fuel := by
            simp only [List.length_append, List.length_take, List.length_drop]
            simp at ended
            have : input.length ≠ 0 := by simpa using ended
            unfold readFuel at enough ⊢
            repeat' split at enough
            all_goals (repeat' split) <;> omega
          obtain ⟨buf', input', ran, kept, ⟨k, taken⟩, -⟩ :=
            ih acc (buf ++ input.take (4096 - buf.length)) (input.drop (4096 - buf.length)) refilled
          refine ⟨buf', input', ?_, ?_, ⟨4096 - buf.length + k, ?_⟩, fun _ fits => ?_⟩
          · simp [ran, splitLine_append_of_not_mem noBreak]
          · simpa [splitLine_append_of_not_mem noBreak] using kept
          · simp [taken, List.drop_drop]
          · -- the whole stream fitted in the refill
            have emptied : input.drop (4096 - buf.length) = [] := List.drop_eq_nil_of_le (by omega)
            simp [taken, emptied]

theorem splitLine_snd_length_lt {bs : List UInt8} (nonempty : bs ≠ []) :
    (splitLine bs).2.length < bs.length := by
  have whole := congrArg List.length (splitLine_append bs)
  have first : (splitLine bs).1 ≠ [] := fun empty => nonempty (splitLine_fst_eq_nil.mp empty)
  have : 0 < (splitLine bs).1.length := List.length_pos_iff.mpr first
  simp only [List.length_append] at whole
  omega

/-- The lines of some bytes, each with the line break that ends it; the last
one may have none. -/
def lines (bs : List UInt8) : List (List UInt8) :=
  if bs = [] then [] else (splitLine bs).1 :: lines (splitLine bs).2
termination_by bs.length
decreasing_by exact splitLine_snd_length_lt ‹_›

/-- The lines are the bytes cut apart: nothing is dropped or read twice. -/
theorem flatten_lines (bs : List UInt8) : (lines bs).flatten = bs := by
  induction bs using lines.induct with
  | case1 => simp [lines]
  | case2 bs nonempty ih =>
    rw [lines, if_neg nonempty, List.flatten_cons, ih, splitLine_append]

theorem lines_getD_zero (bs : List UInt8) : (lines bs).getD 0 [] = (splitLine bs).1 := by
  rw [lines]
  split <;> simp_all

theorem lines_getD_succ (bs : List UInt8) (i : Nat) :
    (lines bs).getD (i + 1) [] = (lines (splitLine bs).2).getD i [] := by
  rw [lines]
  split
  · subst bs
    simp [lines]
  · simp

/-- What a read line gives a script: `null` for no line at all, else the line
without the line breaks and carriage returns that end it. -/
def lineValue (line : List UInt8) : Value :=
  if line.isEmpty then .null
  else .string ⟨(line.reverse.dropWhile (fun b => b == byte '\n' || b == byte '\r')).reverse⟩

/-- What a reader will still read: its buffer, then the rest of the stream. -/
def pending (m : Machine) (reader : Nat) : List UInt8 := m.readers.getD reader [] ++ m.stdin

@[simp] theorem pending_stdout (m : Machine) (out : Array Text) (reader : Nat) :
    pending { m with stdout := out } reader = pending m reader := rfl

@[simp] theorem writeOut_run (t : Text) (m : Machine) :
    (Eval.writeOut t).run m = .ok () { m with stdout := m.stdout.push t } := rfl

/-- One read of a line: the first line of what the reader has pending, and
whether that line runs to the end of the input. -/
theorem readLine_run (m : Machine) (reader : Nat) :
    ∃ buf' input', (readLine reader).run m =
      .ok ((splitLine (pending m reader)).1, !(pending m reader).contains lineBreak)
        { m with readers := m.readers.set! reader buf', stdin := input' } ∧
      buf' ++ input' = (splitLine (pending m reader)).2 ∧ (∃ k, input' = m.stdin.drop k) ∧
      (lineBreak ∉ m.readers.getD reader [] → (m.readers.getD reader []).length + m.stdin.length ≤ 4096 →
        input' = []) := by
  obtain ⟨buf', input', ran, kept, taken, drained⟩ := readLine_go_spec
    (m.stdin.length + (m.readers.getD reader []).length + 2) [] (m.readers.getD reader []) m.stdin (readFuel_le _ _)
  refine ⟨buf', input', ?_, kept, taken, drained⟩
  simp only [Array.getD_eq_getD_getElem?] at ran
  simp [readLine, pending, ran]

/-- `input(...)` gives the first line of what its reader has pending, or `null`
when nothing is pending, and leaves the rest pending. The query only adds to
standard output. -/
theorem input_run (m : Machine) (reader : Nat) (args : List Value) :
    ∃ (buf' input' : List UInt8) (out : Array Text), (input reader args).run m =
      .ok (lineValue (splitLine (pending m reader)).1)
        { m with stdout := out, readers := m.readers.set! reader buf', stdin := input' } ∧
      buf' ++ input' = (splitLine (pending m reader)).2 ∧ (∃ k, input' = m.stdin.drop k) ∧
      (lineBreak ∉ m.readers.getD reader [] → (m.readers.getD reader []).length + m.stdin.length ≤ 4096 →
        input' = []) := by
  -- the query is written first; the read then starts from the same pending bytes
  let query : Text := (args.head?.map m.heap.text).getD .empty
  obtain ⟨buf', input', ran, kept, taken, drained⟩ := readLine_run { m with stdout := m.stdout.push query } reader
  refine ⟨buf', input', m.stdout.push query, ?_, by simpa using kept, taken, drained⟩
  cases args
  all_goals
    simp only [query, List.head?, Option.map, Option.getD, pending_stdout] at ran
    simp [input, query, Eval.text, Eval.heap, ran]
    by_cases empty : pending m reader = []
    · simp [empty, lineValue]
    · simp [empty, lineValue, splitLine_fst_eq_nil]

theorem pending_input {m : Machine} {reader : Nat} (inRange : reader < m.readers.size)
    (out : Array Text) (buf' input' : List UInt8) :
    pending { m with stdout := out, readers := m.readers.set! reader buf', stdin := input' } reader =
      buf' ++ input' := by
  simp [pending, inRange]

/-- Successive calls of `input(...)` through one reader give the successive
lines of what it had pending, none skipped or repeated, and `null` once they
run out. -/
theorem input_reads_lines (queries : List (List Value)) (m : Machine) (reader : Nat)
    (inRange : reader < m.readers.size) :
    ∃ m', (queries.mapM (input reader)).run m =
      .ok ((List.range queries.length).map fun i => lineValue ((lines (pending m reader)).getD i [])) m' := by
  induction queries generalizing m with
  | nil => exact ⟨m, rfl⟩
  | cons args rest ih =>
    obtain ⟨buf', input', out, ran, kept, -, -⟩ := input_run m reader args
    have stillInRange : reader < (m.readers.set! reader buf').size := by simpa using inRange
    obtain ⟨m', ranRest⟩ := ih { m with stdout := out, readers := m.readers.set! reader buf', stdin := input' }
      stillInRange
    refine ⟨m', ?_⟩
    simp only [EStateM.run] at ran ranRest
    rw [pending_input inRange, kept] at ranRest
    simp only [List.mapM_cons, EStateM.run, bind, EStateM.bind, ran, ranRest, pure, EStateM.pure]
    rw [List.length_cons, List.range_succ_eq_map]
    simp only [List.map_cons, List.map_map, Function.comp_def, lines_getD_zero, lines_getD_succ]

/-! ## Readers of different global scopes

Each global scope reads through a reader of its own. A reader that has to
refill its buffer takes up to 4096 bytes of the stream at once, so the lines
after the one it returns wait in its buffer, where no other reader sees them. -/

/-- A reader with no line break buffered takes all of a stream that fits
beside its buffer: the stream is left empty and the lines after the first
wait in this reader's buffer. -/
theorem input_drains_short_stream (m : Machine) (reader : Nat) (args : List Value)
    (noBreak : lineBreak ∉ m.readers.getD reader [])
    (fits : (m.readers.getD reader []).length + m.stdin.length ≤ 4096) :
    ∃ out : Array Text, (input reader args).run m =
      .ok (lineValue (splitLine (pending m reader)).1)
        { m with stdout := out, readers := m.readers.set! reader (splitLine (pending m reader)).2, stdin := [] } := by
  obtain ⟨buf', input', out, ran, kept, -, drained⟩ := input_run m reader args
  have emptied : input' = [] := drained noBreak fits
  subst emptied
  rw [List.append_nil] at kept
  exact ⟨out, kept ▸ ran⟩

/-- A reader with an empty buffer reads `null` once the stream is empty,
whatever other readers still hold. -/
theorem input_of_drained (m : Machine) (reader : Nat) (args : List Value)
    (emptyBuffer : m.readers.getD reader [] = []) (drained : m.stdin = []) :
    ∃ m', (input reader args).run m = .ok .null m' := by
  obtain ⟨buf', input', out, ran, -⟩ := input_run m reader args
  have nothing : pending m reader = [] := by simp [pending, emptyBuffer, drained]
  exact ⟨_, by simpa [nothing, lineValue] using ran⟩

/-- Two global scopes read the stream `a⏎b⏎`: the first reads `a`, and the
second then reads `null`, while `b⏎` waits in the first scope's buffer. -/
theorem second_reader_misses_buffered_line :
    ∃ m₁ m₂, (input 0 []).run { (default : Machine) with stdin := [97, 10, 98, 10], readers := #[[], []] } =
        .ok (.string ⟨[97]⟩) m₁ ∧
      (input 1 []).run m₁ = .ok .null m₂ ∧ pending m₁ 0 = [98, 10] := by
  let m₀ : Machine := { (default : Machine) with stdin := [97, 10, 98, 10], readers := #[[], []] }
  obtain ⟨out, first⟩ := input_drains_short_stream m₀ 0 [] (by decide) (by decide)
  let m₁ : Machine :=
    { m₀ with stdout := out, readers := m₀.readers.set! 0 (splitLine (pending m₀ 0)).2, stdin := [] }
  obtain ⟨m₂, second⟩ := input_of_drained m₁ 1 [] rfl rfl
  exact ⟨m₁, m₂, by rw [first]; rfl, second, rfl⟩

end Library

end Vernacular
