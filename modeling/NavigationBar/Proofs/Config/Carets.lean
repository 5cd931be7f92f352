import Mathlib.Data.List.Nodup
import NavigationBar.Config.Load

/-!
# The caret of an excerpt

A place in a document may be on any of its lines, or at its very end. An excerpt shows up to two
lines before the place and one after it, and a caret below the line of the place, if that is a line
of the document. After a line feed at the end of the document, and in an empty document, no line
begins; an excerpt around that place has no caret.
-/

namespace NavigationBar

/-! ## Counting lines -/

/-- Whether a text ends where a line would begin: nothing or a line feed stands there. -/
def endsAtLineStart (cs : List Char) : Bool :=
  cs.getLast?.all (· == '\n')

theorem endsAtLineStart_append_feed (before cs : List Char) :
    endsAtLineStart (before ++ '\n' :: cs) = endsAtLineStart cs := by
  unfold endsAtLineStart
  rw [List.getLast?_append_cons]
  cases cs with
  | nil => rfl
  | cons c cs => rw [List.getLast?_cons_cons]

theorem length_linesFrom {line : List Char} (hline : '\n' ∉ line) (cs : List Char) :
    (linesFrom line cs).length =
      cs.count '\n' + if endsAtLineStart (line.reverse ++ cs) = true then 0 else 1 := by
  induction cs generalizing line with
  | nil =>
    cases line with
    | nil => rfl
    | cons c line =>
      have hc : c ≠ '\n' := fun h => hline (h ▸ List.mem_cons_self)
      simp [linesFrom, endsAtLineStart, hc]
  | cons c cs ih =>
    by_cases hc : c = '\n'
    · subst hc
      rw [linesFrom, if_pos rfl, List.length_cons, ih List.not_mem_nil,
        endsAtLineStart_append_feed, List.count_cons_self]
      exact Nat.add_right_comm _ _ _
    · have hline' : '\n' ∉ c :: line := by
        simp [hline, Ne.symm hc]
      rw [linesFrom, if_neg hc, ih hline', List.count_cons_of_ne hc, List.reverse_cons,
        List.append_assoc, List.singleton_append]

/-- A text has a line for every line feed, and one more if something follows the last of them. -/
theorem length_textLines (cs : List Char) :
    (textLines cs).length = cs.count '\n' + if endsAtLineStart cs = true then 0 else 1 :=
  length_linesFrom List.not_mem_nil cs

/-! ## Rows -/

namespace ExcerptRow

/-- Whether a row is a caret. -/
def isCaret : ExcerptRow → Bool
  | line _ _ => false
  | caret _ _ => true

/-- The number of the line that a row shows. -/
def number? : ExcerptRow → Option Nat
  | line n _ => some n
  | caret _ _ => none

end ExcerptRow

/-- The rows for one line. -/
def rowsOf (source : List Char) (line column n : Nat) : List ExcerptRow :=
  let row := ExcerptRow.line n ((textLines source)[n - 1]?.getD [])
  if n = line then [row, .caret n (column - 1)] else [row]

/-- The numbers of the lines that are shown around a line. -/
def shownLines (source : List Char) (line : Nat) : List Nat :=
  List.range' (max 1 (line - 2))
    (min (textLines source).length (line + 1) + 1 - max 1 (line - 2))

variable {source : List Char} {line column : Nat}

theorem mem_shownLines {n : Nat} : n ∈ shownLines source line ↔
    max 1 (line - 2) ≤ n ∧ n ≤ min (textLines source).length (line + 1) := by
  rw [shownLines, List.mem_range'_1]
  omega

theorem nodup_shownLines (source : List Char) (line : Nat) : (shownLines source line).Nodup :=
  List.nodup_range'

theorem excerptRows_eq_flatMap (source : List Char) (line column : Nat) :
    excerptRows source line column =
      (shownLines source line).flatMap (rowsOf source line column) := by
  rw [shownLines, List.range'_eq_map_range, List.flatMap_map]
  rfl

theorem filterMap_number?_rowsOf (n : Nat) :
    (rowsOf source line column n).filterMap ExcerptRow.number? = [n] := by
  unfold rowsOf
  split <;> rfl

theorem filterMap_number?_flatMap (ns : List Nat) :
    (ns.flatMap (rowsOf source line column)).filterMap ExcerptRow.number? = ns := by
  induction ns with
  | nil => rfl
  | cons n ns ih =>
    rw [List.flatMap_cons, List.filterMap_append, filterMap_number?_rowsOf, ih,
      List.singleton_append]

theorem isCaret_of_mem_flatMap {ns : List Nat} (hns : line ∉ ns) :
    ∀ row ∈ ns.flatMap (rowsOf source line column), row.isCaret = false := by
  intro row hrow
  obtain ⟨n, hn, hrow⟩ := List.mem_flatMap.mp hrow
  have hne : n ≠ line := fun h => hns (h ▸ hn)
  rw [rowsOf, if_neg hne] at hrow
  obtain rfl := List.mem_singleton.mp hrow
  rfl

/-- Around a line of the document there are rows for others, then the line with the caret below it,
then rows for others again. -/
theorem exists_rows {ns : List Nat} (hns : ns.Nodup) (hline : line ∈ ns) :
    ∃ before after, ns.flatMap (rowsOf source line column) =
        before ++ .line line ((textLines source)[line - 1]?.getD []) ::
          .caret line (column - 1) :: after ∧
      ∀ row ∈ before ++ after, row.isCaret = false := by
  obtain ⟨pre, post, rfl⟩ := List.append_of_mem hline
  obtain ⟨hnotin, -⟩ := List.nodup_cons.mp (List.nodup_middle.mp hns)
  obtain ⟨hpre, hpost⟩ := not_or.mp (List.mem_append.not.mp hnotin)
  refine ⟨pre.flatMap (rowsOf source line column), post.flatMap (rowsOf source line column), ?_, ?_⟩
  · rw [List.flatMap_append, List.flatMap_cons, rowsOf, if_pos rfl]
    rfl
  · exact List.forall_mem_append.mpr ⟨isCaret_of_mem_flatMap hpre, isCaret_of_mem_flatMap hpost⟩

/-- An excerpt of a document points at a place: below the row of the line stands a caret, so many
places to the right of where the line begins in its row, and it is the only caret. -/
def PointsAt (source : String) (line column : Nat) : Prop :=
  ∃ before text after, (textLines source.toList)[line - 1]? = some text ∧
    excerptRows source.toList line column =
      before ++ .line line text :: .caret line (column - 1) :: after ∧
    (∀ row ∈ before ++ after, row.isCaret = false) ∧
    excerpt source line column = String.ofList (before.flatMap ExcerptRow.text ++
      (lineNumber line ++ text ++ ['\n'] ++
        (List.replicate ((lineNumber line).length + (column - 1)) ' ' ++ ['^', '\n'] ++
          after.flatMap ExcerptRow.text)))

theorem pointsAt_of_le {source : String} (hfirst : 1 ≤ line)
    (hlast : line ≤ (textLines source.toList).length) (column : Nat) :
    PointsAt source line column := by
  have hmem : line ∈ shownLines source.toList line := by
    rw [mem_shownLines]
    omega
  obtain ⟨before, after, hrows, hcarets⟩ := exists_rows (nodup_shownLines source.toList line) hmem
  rw [← excerptRows_eq_flatMap] at hrows
  have htext : (textLines source.toList)[line - 1]? =
      some ((textLines source.toList)[line - 1]?.getD []) := by
    have hlt : line - 1 < (textLines source.toList).length := by omega
    rw [List.getElem?_eq_getElem hlt, Option.getD_some]
  refine ⟨before, _, after, htext, hrows, hcarets, ?_⟩
  rw [excerpt, hrows, List.flatMap_append, List.flatMap_cons, List.flatMap_cons, ExcerptRow.text,
    ExcerptRow.text, List.replicate_append_replicate]

theorem isCaret_of_lt {source : List Char} (hlast : (textLines source).length < line)
    (column : Nat) : ∀ row ∈ excerptRows source line column, row.isCaret = false := by
  rw [excerptRows_eq_flatMap]
  refine isCaret_of_mem_flatMap ?_
  rw [mem_shownLines]
  omega

/-- The lines that an excerpt shows follow one upon the other, around the line of its place. -/
theorem exists_numbers_eq_range' (source : List Char) (hfirst : 1 ≤ line) (column : Nat) :
    ∃ first count, (excerptRows source line column).filterMap ExcerptRow.number? =
      List.range' first count ∧ line - 2 ≤ first ∧ first + count ≤ line + 2 := by
  refine ⟨max 1 (line - 2), min (textLines source).length (line + 1) + 1 - max 1 (line - 2),
    ?_, ?_, ?_⟩
  · rw [excerptRows_eq_flatMap, filterMap_number?_flatMap]
    rfl
  · omega
  · omega

/-- An excerpt around any place of a document shows lines in a row, of which the first is at most
two before the place and the last at most one after it. It points at the place unless that is in the
line after the last line feed and nothing follows there; then it has no caret. -/
theorem pointsAt_unless_at_end {source : String} (hfirst : 1 ≤ line)
    (hlast : line ≤ 1 + source.toList.count '\n') (column : Nat) :
    (∃ first count, (excerptRows source.toList line column).filterMap ExcerptRow.number? =
        List.range' first count ∧ line - 2 ≤ first ∧ first + count ≤ line + 2) ∧
      (¬ (line = 1 + source.toList.count '\n' ∧ endsAtLineStart source.toList = true) →
        PointsAt source line column) ∧
      (line = 1 + source.toList.count '\n' ∧ endsAtLineStart source.toList = true →
        ∀ row ∈ excerptRows source.toList line column, row.isCaret = false) := by
  have hlength := length_textLines source.toList
  refine ⟨exists_numbers_eq_range' source.toList hfirst column, ?_, ?_⟩
  · intro hplace
    refine pointsAt_of_le hfirst ?_ column
    rw [hlength]
    by_cases hend : endsAtLineStart source.toList = true
    · have hne : line ≠ 1 + source.toList.count '\n' := fun h => hplace ⟨h, hend⟩
      omega
    · rw [if_neg hend]
      omega
  · rintro ⟨rfl, hend⟩
    refine isCaret_of_lt ?_ column
    rw [hlength, if_pos hend]
    omega

theorem pointsAt_unless_at_end_second :
    1 ≤ 2 ∧ 2 ≤ 1 + "\x7b\n]\n".toList.count '\n' ∧ PointsAt "\x7b\n]\n" 2 1 := by
  have hlast : 2 ≤ 1 + "\x7b\n]\n".toList.count '\n' := by decide
  obtain ⟨-, hpoints, -⟩ := pointsAt_unless_at_end (by decide : 1 ≤ 2) hlast 1
  exact ⟨by decide, hlast, hpoints (by decide)⟩

/-- A document that is cut off after a line feed is refused at a place that its excerpt does not
point at. -/
theorem no_caret_at_end :
    Config.load "\x7b\n" none none =
        .error (.json none .eofInObject ⟨2, 0⟩ "\x7b\n") ∧
      (1 ≤ 2 ∧ 2 ≤ 1 + "\x7b\n".toList.count '\n') ∧ ¬ PointsAt "\x7b\n" 2 0 := by
  refine ⟨by rfl, by decide, ?_⟩
  rintro ⟨before, text, after, -, hrows, -⟩
  have hcaret : ExcerptRow.caret 2 0 ∈ excerptRows "\x7b\n".toList 2 0 := by
    rw [hrows]
    simp
  revert hcaret
  decide

end NavigationBar
