import NavigationBar.Proofs.Template.Copying
import NavigationBar.Proofs.Template.Pieces
import NavigationBar.Proofs.Template.Unfolding

/-!
# The normalization stays inside of its texts

The normalization works on lists, where no position can be wrong. Here it is done again with
positions: the output is one text into which semicolons are inserted at a byte offset, the operands
of a conditional are ranges of its text, and the scans count brackets down as well as up. Each of
these operations fails outside of its bounds (`insert?`, `slice?`, `decrement?`). None of them ever
does, whatever the body, and the result is the same.
-/

namespace NavigationBar.Template

/-! ## Loops over characters -/

/-- Whether everything that is cut off from the front of a text leaves an end of that text. A loop
that reads a piece or a token therefore goes on after the character that it began at, and nowhere
beyond the end. -/
structure MovesOn (cs : List Char) : Prop where
  /-- A piece of a body that begins before the text. -/
  piece : ∀ c, (Piece.read c cs).2 <:+ cs
  /-- A token that begins before the text. -/
  token : ∀ c, (Token.read c cs).2 <:+ cs
  /-- The inside of a quoted text. -/
  quoted : ∀ mark, (quotedSpan mark cs).2 <:+ cs
  /-- The inside of a text in single quotes. -/
  requoted : (requote cs).2 <:+ cs
  /-- The inside of a comment that ends with `*/`. -/
  block : (blockSpan cs).2 <:+ cs
  /-- The rest of a line. -/
  line : (lineSpan cs).2 <:+ cs
  /-- The rest of a word. -/
  word : (wordSpan cs).2 <:+ cs
  /-- Blanks and comments. -/
  trivia : (triviaSpan cs).2 <:+ cs

theorem suffix_of_suffix_cons {α : Type} {a : α} {as bs : List α} (h : as <:+ a :: bs)
    (hlt : as.length < (a :: bs).length) : as <:+ bs := by
  rcases List.suffix_cons_iff.mp h with rfl | h
  · exact absurd hlt (Nat.lt_irrefl _)
  · exact h

theorem Piece.read_suffix (c : Char) (cs : List Char) : (Piece.read c cs).2 <:+ cs :=
  suffix_of_suffix_cons (Piece.cuts_read c cs).suffix
    (Nat.lt_succ_of_le (Piece.read_length c cs))

theorem Token.read_suffix (c : Char) (cs : List Char) : (Token.read c cs).2 <:+ cs :=
  suffix_of_suffix_cons ⟨_, Token.read_append c cs⟩ (Token.read_length c cs)

theorem movesOn (cs : List Char) : MovesOn cs where
  piece c := Piece.read_suffix c cs
  token c := Token.read_suffix c cs
  quoted mark := ⟨_, quotedSpan_append mark cs⟩
  requoted := requote_suffix cs
  block := ⟨_, blockSpan_append cs⟩
  line := ⟨_, lineSpan_append cs⟩
  word := ⟨_, wordSpan_append cs⟩
  trivia := ⟨_, triviaSpan_append cs⟩

/-! ## Semicolons -/

/-- The number of bytes of a text. -/
def byteLength : List Char → Nat
  | [] => 0
  | c :: cs => c.utf8Size + byteLength cs

/-- Cuts a text at a byte offset. None if that is beyond the end or inside a character. -/
def cutAt? (offset : Nat) : List Char → Option (List Char × List Char)
  | [] => if offset = 0 then some ([], []) else none
  | c :: cs =>
    if offset = 0 then some ([], c :: cs)
    else if offset < c.utf8Size then none
    else (cutAt? (offset - c.utf8Size) cs).map fun (front, back) => (c :: front, back)

theorem cutAt?_byteLength (front back : List Char) :
    cutAt? (byteLength front) (front ++ back) = some (front, back) := by
  induction front with
  | nil => cases back <;> rfl
  | cons c front ih =>
    have hpos := c.utf8Size_pos
    have hlength : byteLength (c :: front) = c.utf8Size + byteLength front := rfl
    have hnonzero : ¬ c.utf8Size + byteLength front = 0 := by omega
    have hle : ¬ c.utf8Size + byteLength front < c.utf8Size := by omega
    rw [hlength, List.cons_append, cutAt?, if_neg hnonzero, if_neg hle, Nat.add_sub_cancel_left, ih]
    rfl

/-- A text with one more character at a byte offset. -/
def insert? (cs : List Char) (offset : Nat) (c : Char) : Option (List Char) :=
  (cutAt? offset cs).map fun (front, back) => front ++ c :: back

/-- A respelling under way that writes into one text. -/
structure Output where
  /-- All that has been written. -/
  text : List Char := []
  /-- The byte offset just after the last significant character. -/
  offset : Nat := 0
  /-- The last significant character. -/
  previous : Option Char := none
  /-- The brackets that are open, the innermost first. -/
  opened : List Char := []

namespace Output

/-- What decides whether a statement ends: the last significant character and the open brackets. -/
def view (o : Output) : Spelled :=
  { previous := o.previous, opened := o.opened }

/-- Writes a text that ends in a significant character, which is read as `last`. -/
def settle (o : Output) (text : List Char) (last : Char) : Output :=
  { o with text := o.text ++ text, offset := byteLength (o.text ++ text), previous := some last }

/-- Writes blanks or a comment. -/
def loosen (o : Output) (text : List Char) : Output :=
  { o with text := o.text ++ text }

/-- Inserts the semicolon of the statement that has been written. The offset stays before it. -/
def endStatement? (o : Output) : Option Output :=
  (insert? o.text o.offset ';').map fun text => { o with text := text, previous := some ';' }

/-- Writes one more piece. -/
def write? (o : Output) : Piece → Option Output
  | .quoted mark text => some (o.settle text mark)
  | .comment text => some (o.loosen text)
  | .strictOperator first => some (o.settle [first, '='] '=')
  | .word w =>
    some (o.settle (if o.previous = some '.' then w else Spelled.scriptWord w)
      (w.getLast?.getD ' '))
  | .lineBreak carriesOn =>
    (if o.view.endsStatement && o.view.amongStatements && !carriesOn then o.endStatement?
      else some o).map fun o => o.loosen ['\n']
  | .other c =>
    let o := { o with opened := Spelled.track o.opened c }
    some (if Text.isBlank c then o.loosen [c] else o.settle [c] c)

/-- Whether an output stands for a respelling under way. Its offset is right wherever a statement
may end; after a semicolon it is one too small. -/
structure Shows (o : Output) (s : Spelled) : Prop where
  /-- The same text is written. -/
  text : o.text = s.text
  /-- The last significant character is the same. -/
  previous : o.previous = s.previous
  /-- The same brackets are open. -/
  opened : o.opened = s.opened
  /-- The offset is the end of what is settled. -/
  offset : s.endsStatement = true → o.offset = byteLength s.settled.reverse

variable {o : Output} {s : Spelled}

theorem Shows.settle (h : o.Shows s) (text : List Char) (last : Char) :
    (o.settle text last).Shows (s.settle text last) := by
  have htext : o.text ++ text = (s.settle text last).text := by rw [s.text_settle, h.text]
  refine ⟨htext, rfl, h.opened, fun _ => ?_⟩
  have hsettled : (s.settle text last).settled.reverse = (s.settle text last).text := rfl
  rw [hsettled, ← htext]
  rfl

theorem Shows.loosen (h : o.Shows s) (text : List Char) : (o.loosen text).Shows (s.loosen text) :=
  ⟨by rw [s.text_loosen, ← h.text]; rfl, h.previous, h.opened, h.offset⟩

/-- Where a statement ends, the offset is a position in the output. -/
theorem Shows.endStatement? (h : o.Shows s) (hs : s.endsStatement = true) :
    ∃ o', o.endStatement? = some o' ∧ o'.Shows s.endStatement := by
  have htext : o.text = s.settled.reverse ++ s.loose.reverse := by
    rw [h.text, Spelled.text, List.reverse_append]
  have hwritten : s.endStatement.text = s.settled.reverse ++ ';' :: s.loose.reverse := by
    simp [Spelled.endStatement, Spelled.text]
  refine ⟨{ o with text := s.endStatement.text, previous := some ';' }, ?_, rfl, rfl, h.opened, ?_⟩
  · rw [Output.endStatement?, insert?, h.offset hs, htext, cutAt?_byteLength, hwritten]
    rfl
  · -- Nothing more is inserted here before something significant is written.
    have hnot : s.endStatement.endsStatement = false := rfl
    exact fun hends => absurd (hnot.symm.trans hends) Bool.false_ne_true

theorem Shows.track (h : o.Shows s) (c : Char) :
    Shows { o with opened := Spelled.track o.opened c }
      { s with opened := Spelled.track s.opened c } :=
  ⟨h.text, h.previous, by rw [h.opened], h.offset⟩

theorem Shows.view_endsStatement (h : o.Shows s) : o.view.endsStatement = s.endsStatement := by
  simp only [view, Spelled.endsStatement, h.previous]

theorem Shows.view_amongStatements (h : o.Shows s) :
    o.view.amongStatements = s.amongStatements := by
  simp only [view, Spelled.amongStatements, h.opened]

theorem Shows.write? (h : o.Shows s) (p : Piece) :
    ∃ o', o.write? p = some o' ∧ o'.Shows (s.write p) := by
  cases p with
  | quoted mark text => exact ⟨_, rfl, h.settle text mark⟩
  | comment text => exact ⟨_, rfl, h.loosen text⟩
  | strictOperator first => exact ⟨_, rfl, h.settle _ _⟩
  | word w =>
    refine ⟨_, rfl, ?_⟩
    rw [h.previous]
    exact h.settle _ _
  | lineBreak carriesOn =>
    simp only [Output.write?, Spelled.write, h.view_endsStatement, h.view_amongStatements]
    split
    · rename_i hends
      simp only [Bool.and_eq_true] at hends
      obtain ⟨o', ho', hshows⟩ := h.endStatement? hends.1.1
      exact ⟨_, by rw [ho']; rfl, hshows.loosen _⟩
    · exact ⟨_, rfl, h.loosen _⟩
  | other c =>
    refine ⟨_, rfl, ?_⟩
    rw [Spelled.write]
    split
    · exact (h.track c).loosen _
    · exact (h.track c).settle _ _

/-- No semicolon is ever inserted outside of what has been written. -/
theorem Shows.foldlM (h : o.Shows s) (ps : List Piece) :
    ∃ o', ps.foldlM Output.write? o = some o' ∧ o'.Shows (ps.foldl Spelled.write s) := by
  induction ps generalizing o s with
  | nil => exact ⟨o, rfl, h⟩
  | cons p ps ih =>
    obtain ⟨o₁, hwrite, hshows⟩ := h.write? p
    obtain ⟨o₂, hrest, hshows'⟩ := ih hshows
    exact ⟨o₂, by rw [List.foldlM_cons, hwrite]; exact hrest, hshows'⟩

end Output

/-- A body respelled in one text, unless a semicolon is inserted outside of it. -/
def respell? (body : List Char) : Option (List Char) :=
  ((pieces body).foldlM Output.write? {}).map Output.text

theorem respell?_eq (body : List Char) : respell? body = some (respell body) := by
  have hstart : Output.Shows {} {} := ⟨rfl, rfl, rfl, fun h => absurd h (by decide)⟩
  obtain ⟨o, ho, hshows⟩ := hstart.foldlM (pieces body)
  rw [respell?, ho, Option.map_some, hshows.text, respell]

/-- The position of the semicolon is counted in bytes, and the next line break leaves it alone. -/
example : respell? "'é' // on\n\nx".toList = some "\"é\"; // on\n\nx".toList := by
  decide +kernel

/-! ## Counting brackets -/

/-- A depth counted down. -/
def decrement? : Nat → Option Nat
  | 0 => none
  | depth + 1 => some depth

/-- A scan: it counts some tokens up and some down, and ends, outside of brackets, before a token
that it would count down and before certain others. -/
structure Scan where
  /-- The tokens counted up. -/
  enters : Placed → Bool
  /-- The tokens counted down. -/
  leaves : Placed → Bool
  /-- The others that the scan ends before. -/
  ends : Placed → Bool

/-- The tokens that a scan passes, and the rest. None if the depth falls below zero. -/
def Scan.run? (s : Scan) (depth : Nat) : List Placed → Option (List Placed × List Placed)
  | [] => some ([], [])
  | p :: ps =>
    if s.enters p then
      (s.run? (depth + 1) ps).map fun (passed, rest) => (p :: passed, rest)
    else if s.leaves p then
      if depth = 0 then some ([], p :: ps)
      else (decrement? depth).bind fun depth =>
        (s.run? depth ps).map fun (passed, rest) => (p :: passed, rest)
    else if depth = 0 ∧ s.ends p then some ([], p :: ps)
    else (s.run? depth ps).map fun (passed, rest) => (p :: passed, rest)

namespace Scan

/-- The scan back from a question mark. -/
def condition : Scan := ⟨Placed.isClosing, Placed.isOpening, Placed.endsCondition⟩

/-- The scan from a question mark to its colon. -/
def colon : Scan := ⟨Placed.isOpening, Placed.isClosing, fun p => p.isMark ';' || p.isColon⟩

/-- The scan from a colon to the end of the conditional. -/
def alternative : Scan := ⟨Placed.isOpening, Placed.isClosing, Placed.endsAlternative⟩

section Steps

variable {s : Scan} {p : Placed}

theorem run?_enter (h : s.enters p = true) (depth : Nat) (ps : List Placed) :
    s.run? depth (p :: ps) =
      (s.run? (depth + 1) ps).map fun (passed, rest) => (p :: passed, rest) := by
  rw [run?, if_pos h]

theorem run?_leave (he : ¬ s.enters p = true) (h : s.leaves p = true) (depth : Nat)
    (ps : List Placed) :
    s.run? (depth + 1) (p :: ps) =
      (s.run? depth ps).map fun (passed, rest) => (p :: passed, rest) := by
  rw [run?, if_neg he, if_pos h, if_neg (Nat.succ_ne_zero depth)]
  rfl

theorem run?_stop (he : ¬ s.enters p = true) (h : s.leaves p = true ∨ s.ends p = true)
    (ps : List Placed) : s.run? 0 (p :: ps) = some ([], p :: ps) := by
  rw [run?, if_neg he]
  split
  · rw [if_pos rfl]
  · rename_i hl
    rw [if_pos ⟨rfl, h.resolve_left hl⟩]

theorem run?_pass (he : ¬ s.enters p = true) (hl : ¬ s.leaves p = true) {depth : Nat}
    (h : ¬ (depth = 0 ∧ s.ends p = true)) (ps : List Placed) :
    s.run? depth (p :: ps) =
      (s.run? depth ps).map fun (passed, rest) => (p :: passed, rest) := by
  rw [run?, if_neg he, if_neg hl, if_neg h]

end Steps

theorem run?_condition (depth : Nat) (ps : List Placed) :
    condition.run? depth ps = some (splitCondition depth ps) := by
  fun_induction splitCondition depth ps with
  | case1 => rfl
  | case2 depth p ps hc passed rest hsplit ih => rw [run?_enter hc, ih, hsplit]; rfl
  | case3 p ps hc ho => exact run?_stop hc (.inl ho) ps
  | case4 p ps hc ho depth passed rest hsplit ih => rw [run?_leave hc ho, ih, hsplit]; rfl
  | case5 depth p ps hc ho hends =>
    obtain ⟨rfl, hends⟩ := hends
    exact run?_stop hc (.inr hends) ps
  | case6 depth p ps hc ho hends passed rest hsplit ih =>
    rw [run?_pass hc ho hends, ih, hsplit]
    rfl

theorem run?_alternative (depth : Nat) (ps : List Placed) :
    alternative.run? depth ps = some (splitAlternative depth ps) := by
  fun_induction splitAlternative depth ps with
  | case1 => rfl
  | case2 depth p ps ho passed rest hsplit ih => rw [run?_enter ho, ih, hsplit]; rfl
  | case3 p ps ho hc => exact run?_stop ho (.inl hc) ps
  | case4 p ps ho hc depth passed rest hsplit ih => rw [run?_leave ho hc, ih, hsplit]; rfl
  | case5 depth p ps ho hc hends =>
    obtain ⟨rfl, hends⟩ := hends
    exact run?_stop ho (.inr hends) ps
  | case6 depth p ps ho hc hends passed rest hsplit ih =>
    rw [run?_pass ho hc hends, ih, hsplit]
    rfl

/-- What a scan that has ended before a colon leaves around it. -/
def aroundColon : List Placed × List Placed → Option (List Placed × List Placed)
  | (_, []) => none
  | (passed, p :: rest) => if p.isColon then some (passed, rest) else none

theorem aroundColon_cons (p : Placed) (r : List Placed × List Placed) :
    aroundColon (p :: r.1, r.2) =
      (aroundColon r).map fun (passed, rest) => (p :: passed, rest) := by
  obtain ⟨passed, rest⟩ := r
  cases rest with
  | nil => rfl
  | cons q rest =>
    simp only [aroundColon]
    split <;> rfl

theorem run?_colon (depth : Nat) (ps : List Placed) :
    (colon.run? depth ps).map aroundColon = some (splitColon depth ps) := by
  have hpass : ∀ {p : Placed} {scan : Option (List Placed × List Placed)}
      {cut : Option (List Placed × List Placed)}, scan.map aroundColon = some cut →
      (scan.map fun (passed, rest) => (p :: passed, rest)).map aroundColon =
        some (cut.map fun (passed, rest) => (p :: passed, rest)) := by
    intro p scan cut hscan
    obtain ⟨r, rfl, rfl⟩ := Option.map_eq_some_iff.mp hscan
    exact congrArg some (aroundColon_cons p r)
  -- Unlike the other scans this one fails without a colon, but what it passes is counted all the
  -- same.
  fun_induction splitColon depth ps with
  | case1 => rfl
  | case2 depth p ps ho ih =>
    rw [run?_enter ho]
    exact hpass ih
  | case3 p ps ho hc =>
    have hcolon : p.isColon = false := by
      by_contra h
      simp [Placed.isClosing, Placed.isMark, Placed.kind_of_isColon (by simpa using h)] at hc
    rw [run?_stop ho (.inl hc), Option.map_some, aroundColon, hcolon]
    rfl
  | case4 p ps ho hc depth ih =>
    rw [run?_leave ho hc]
    exact hpass ih
  | case5 depth p ps ho hc hsemi =>
    obtain ⟨rfl, hsemi⟩ := hsemi
    have hcolon : p.isColon = false := by
      by_contra h
      simp [Placed.isMark, Placed.kind_of_isColon (by simpa using h)] at hsemi
    rw [run?_stop ho (.inr (by simp [colon, hsemi])), Option.map_some, aroundColon, hcolon]
    rfl
  | case6 depth p ps ho hc hsemi hcolon =>
    obtain ⟨rfl, hcolon⟩ := hcolon
    rw [run?_stop ho (.inr (by simp [colon, hcolon])), Option.map_some, aroundColon, if_pos hcolon]
  | case7 depth p ps ho hc hsemi hcolon ih =>
    rw [run?_pass ho hc]
    · exact hpass ih
    · rintro ⟨hd, hends⟩
      simp only [colon, Bool.or_eq_true] at hends
      exact hends.elim (fun h => hsemi ⟨hd, h⟩) fun h => hcolon ⟨hd, h⟩

end Scan

/-! ## Ranges of operands -/

/-- The part of a text between two positions. None if they are in the wrong order or beyond the
end. -/
def slice? (cs : List Char) (start stop : Nat) : Option (List Char) :=
  if start ≤ stop ∧ stop ≤ cs.length then some ((cs.take stop).drop start) else none

theorem slice?_eq {cs : List Char} (front inner back : List Char) {start stop : Nat}
    (hcs : front ++ (inner ++ back) = cs) (hstart : start = front.length)
    (hstop : stop = start + inner.length) : slice? cs start stop = some inner := by
  have hbounds : start ≤ stop ∧ stop ≤ cs.length := by
    rw [← hcs, List.length_append, List.length_append]
    omega
  have hfront : cs.take stop = front ++ inner := by
    rw [← hcs, ← List.append_assoc]
    exact List.take_left' (by rw [List.length_append]; omega)
  rw [slice?, if_pos hbounds, hfront, hstart, List.drop_left]

/-- Where the operands of a conditional begin and end in its text. -/
structure Ranges where
  /-- The condition. -/
  condition : Nat × Nat
  /-- Its value when the condition holds. -/
  consequent : Nat × Nat
  /-- Its value when the condition fails. -/
  alternative : Nat × Nat

/-- Where an operand begins and ends if its tokens begin at a position. -/
def Operand.range (o : Operand) (start : Nat) : Nat × Nat :=
  (start + (covered o.before).length, start + (covered o.before).length + (covered o.inner).length)

/-- Where the operands of the last conditional of a list of tokens begin and end. -/
def ranges? (ps : List Placed) : Option Ranges := do
  let (left, right) ← splitQuestion? ps
  let (cond, before) := splitCondition 0 left
  let condition ← operand? cond.reverse
  let (cons, rest) ← splitColon 0 right
  let consequent ← operand? cons
  let (alt, _) := splitAlternative 0 rest
  let alternative ← operand? alt
  let question := (covered left).length
  let colon := question + 1 + (covered cons).length
  return {
    condition := condition.range (covered before).length
    consequent := consequent.range (question + 1)
    alternative := alternative.range (colon + 1) }

namespace Ranges

/-- Whether the ranges stand one after the other in a text of this length. -/
structure InOrder (r : Ranges) (length : Nat) : Prop where
  /-- The condition ends after its begin. -/
  condition : r.condition.1 ≤ r.condition.2
  /-- The first operand begins after the condition. -/
  question : r.condition.2 ≤ r.consequent.1
  /-- The first operand ends after its begin. -/
  consequent : r.consequent.1 ≤ r.consequent.2
  /-- The second operand begins after the first one. -/
  colon : r.consequent.2 ≤ r.alternative.1
  /-- The second operand ends after its begin. -/
  alternative : r.alternative.1 ≤ r.alternative.2
  /-- The second operand ends in the text. -/
  length : r.alternative.2 ≤ length

/-- A text with the conditional in these ranges in the form that scripts have for it. -/
def rewrite? (r : Ranges) (cs : List Char) : Option (List Char) := do
  let before ← slice? cs 0 r.condition.1
  let condition ← slice? cs r.condition.1 r.condition.2
  let consequent ← slice? cs r.consequent.1 r.consequent.2
  let alternative ← slice? cs r.alternative.1 r.alternative.2
  let after ← slice? cs r.alternative.2 cs.length
  return before ++ "(if ".toList ++ condition ++ " \x7b ".toList ++ consequent
    ++ " \x7d else \x7b ".toList ++ alternative ++ " \x7d)".toList ++ after

/-- Whether ranges hold the operands of a conditional that stand between other tokens. -/
structure Hold (r : Ranges) (p : Parts) (question colon : List Placed) : Prop where
  /-- The condition begins after what is before the conditional. -/
  conditionStart : r.condition.1 = (covered p.before).length
  /-- It is as long as its tokens. -/
  conditionStop : r.condition.2 = r.condition.1 + (covered p.condition).length
  /-- The first operand begins after the question mark and the trivia around that. -/
  consequentStart : r.consequent.1 = r.condition.2 + (covered question).length
  /-- It is as long as its tokens. -/
  consequentStop : r.consequent.2 = r.consequent.1 + (covered p.consequent).length
  /-- The second operand begins after the colon and the trivia around that. -/
  alternativeStart : r.alternative.1 = r.consequent.2 + (covered colon).length
  /-- It is as long as its tokens. -/
  alternativeStop : r.alternative.2 = r.alternative.1 + (covered p.alternative).length

end Ranges

/-- A list of tokens cut around the operands of a conditional. -/
def Parts.spread (p : Parts) (question colon : List Placed) : List Placed :=
  p.before ++ (p.condition ++ (question ++ (p.consequent ++ (colon ++
    (p.alternative ++ p.after)))))

theorem length_covered_reverse (ps : List Placed) :
    (covered ps.reverse).length = (covered ps).length := by
  simp only [covered, source, List.length_flatMap, List.map_reverse, List.sum_reverse]

/-- Ranges are found where a conditional is found, and they hold its operands. -/
theorem exists_hold {ps : List Placed} {p : Parts} (hp : parts? ps = some p)
    (hmark : ∀ t ∈ ps, ∀ c, t.token.kind = .mark c → t.token.text = [c]) :
    ∃ (r : Ranges) (question colon : List Placed), ranges? ps = some r ∧
      r.Hold p question colon ∧ ps = p.spread question colon := by
  simp only [parts?, Option.bind_eq_bind, Option.bind_eq_some_iff, Option.pure_def] at hp
  obtain ⟨⟨left, right⟩, hleft, c, hc, ⟨inner, rest⟩, hright, a, ha, b, hb, hparts⟩ := hp
  obtain ⟨q, hq, rfl⟩ := splitQuestion?_eq_some hleft
  obtain ⟨k, hk, rfl⟩ := splitColon_eq_some hright
  dsimp only at hc ha hb hright
  have hranges : ranges? (left.reverse ++ q :: (inner ++ k :: rest)) = some
      { condition := c.range (covered (splitCondition 0 left).2).length
        consequent := a.range ((covered left).length + 1)
        alternative := b.range ((covered left).length + 1 + (covered inner).length + 1) } := by
    simp only [ranges?, hleft, hc, hright, ha, hb, Option.bind_eq_bind, Option.bind_some,
      Option.pure_def]
  -- The question mark and the colon are one character long, which `ranges?` takes for granted.
  have hquestion := congrArg List.length (hmark q (by simp) _ (Placed.kind_of_isQuestion hq))
  have hcolon := congrArg List.length (hmark k (by simp) _ (Placed.kind_of_isColon hk))
  have hback := reverse_eq_of_condition hc
  have hforth := eq_of_alternative hb
  have hinner := (operand?_eq_some ha).1
  cases hparts
  refine ⟨_, c.after ++ q :: a.before, a.after ++ k :: b.before, hranges, ?_, ?_⟩
  · have hlength := congrArg (fun ps => (covered ps).length) hback
    have hlength' := congrArg (fun ps => (covered ps).length) hinner
    simp only [covered_append, List.length_append, length_covered_reverse, List.length_singleton]
      at hlength hlength' hquestion hcolon
    constructor <;> simp only [Operand.range, covered_append, covered_cons, List.length_append,
      length_covered_reverse] <;> omega
  · conv_lhs => rw [hback, hinner, hforth]
    simp only [Parts.spread, List.append_assoc, List.cons_append]

namespace Ranges

variable {r : Ranges} {p : Parts} {question colon : List Placed}

theorem Hold.inOrder (h : r.Hold p question colon) :
    r.InOrder (covered (p.spread question colon)).length := by
  obtain ⟨h₁, h₂, h₃, h₄, h₅, h₆⟩ := h
  constructor
  case length =>
    simp only [Parts.spread, covered_append, List.length_append]
    omega
  all_goals omega

/-- The operands are read from the text and the conditional is rewritten. -/
theorem Hold.rewrite? (h : r.Hold p question colon) :
    r.rewrite? (covered (p.spread question colon)) = some p.toText := by
  obtain ⟨h₁, h₂, h₃, h₄, h₅, h₆⟩ := h
  generalize hcs : covered (p.spread question colon) = cs
  simp only [Parts.spread, covered_append] at hcs
  rw [Parts.toText]
  generalize covered p.before = B, covered p.condition = C, covered question = Q,
    covered p.consequent = A, covered colon = K, covered p.alternative = D, covered p.after = E at *
  have hlength := congrArg List.length hcs
  simp only [List.length_append] at hlength
  -- Each part is the slice that begins after all parts before it.
  have hB : slice? cs 0 r.condition.1 = some B := slice?_eq [] B _ hcs rfl (by omega)
  have hC : slice? cs r.condition.1 r.condition.2 = some C := slice?_eq B C _ hcs h₁ h₂
  have hA : slice? cs r.consequent.1 r.consequent.2 = some A :=
    slice?_eq (B ++ (C ++ Q)) A _ (by simpa using hcs) (by simp; omega) h₄
  have hD : slice? cs r.alternative.1 r.alternative.2 = some D :=
    slice?_eq (B ++ (C ++ (Q ++ (A ++ K)))) D _ (by simpa using hcs) (by simp; omega) h₆
  have hE : slice? cs r.alternative.2 cs.length = some E :=
    slice?_eq (B ++ (C ++ (Q ++ (A ++ (K ++ D))))) E [] (by simpa using hcs) (by simp; omega)
      (by omega)
  rw [Ranges.rewrite?, hB, hC, hA, hD, hE]
  rfl

end Ranges

theorem isSome_ranges? (ps : List Placed) : (ranges? ps).isSome = (parts? ps).isSome := by
  -- Both take the same steps, and fail where one of these does.
  unfold ranges? parts?
  cases splitQuestion? ps with
  | none => rfl
  | some cut =>
    obtain ⟨left, right⟩ := cut
    simp only [Option.bind_eq_bind, Option.bind_some]
    cases operand? (splitCondition 0 left).1.reverse with
    | none => rfl
    | some c =>
      cases splitColon 0 right with
      | none => rfl
      | some cut =>
        obtain ⟨inner, rest⟩ := cut
        simp only [Option.bind_some]
        cases operand? inner with
        | none => rfl
        | some a => cases operand? (splitAlternative 0 rest).1 <;> rfl

/-! ## Rounds -/

/-- Whether one round of the pass makes one text out of another one, the operands read from their
ranges. -/
def Round (text next : List Char) : Prop :=
  ∃ r, ranges? (place none (tokens text)) = some r ∧ r.rewrite? text = some next

/-- What holds of the ranges in a text and of the round that rewrites it. -/
structure RoundInBounds (text : List Char) : Prop where
  /-- The ranges stand one after the other in the text. -/
  inOrder : ∀ r ∈ ranges? (place none (tokens text)), r.InOrder text.length
  /-- If there are any, then the text is rewritten, and otherwise it is not. -/
  rewritten : ∀ next, eraseLast? text = some next ↔ Round text next
  /-- A text that is rewritten has fewer question marks. -/
  fewer : ∀ next, Round text next → next.count '?' < text.count '?'

theorem exists_ranges {text : List Char} {p : Parts}
    (hp : parts? (place none (tokens text)) = some p) :
    ∃ r, ranges? (place none (tokens text)) = some r ∧ r.InOrder text.length ∧
      r.rewrite? text = some p.toText := by
  obtain ⟨r, question, colon, hr, hold, hps⟩ :=
    exists_hold hp fun t ht c hc => text_of_mem_place ht hc
  have htext : text = covered (p.spread question colon) := by rw [← hps, covered_place]
  refine ⟨r, hr, ?_, ?_⟩
  · rw [htext]
    exact hold.inOrder
  · rw [htext]
    exact hold.rewrite?

theorem exists_parts {text : List Char} {r : Ranges}
    (hr : ranges? (place none (tokens text)) = some r) :
    ∃ p, parts? (place none (tokens text)) = some p ∧ r.InOrder text.length ∧
      r.rewrite? text = some p.toText := by
  have hsome := isSome_ranges? (place none (tokens text))
  rw [hr, Option.isSome_some, eq_comm, Option.isSome_iff_exists] at hsome
  obtain ⟨p, hp⟩ := hsome
  obtain ⟨r', hr', hbounds⟩ := exists_ranges hp
  obtain rfl := Option.some.inj (hr.symm.trans hr')
  exact ⟨p, hp, hbounds⟩

theorem eraseLast?_eq_some_iff (text next : List Char) :
    eraseLast? text = some next ↔ Round text next := by
  constructor
  · intro h
    obtain ⟨p, hp, rfl⟩ := Option.map_eq_some_iff.mp h
    obtain ⟨r, hr, -, hrewrite⟩ := exists_ranges hp
    exact ⟨r, hr, hrewrite⟩
  · rintro ⟨r, hr, hrewrite⟩
    obtain ⟨p, hp, -, hrewrite'⟩ := exists_parts hr
    rw [eraseLast?, hp, Option.map_some, ← hrewrite', hrewrite]

theorem roundInBounds (text : List Char) : RoundInBounds text where
  inOrder r hr := by
    obtain ⟨-, -, horder, -⟩ := exists_parts hr
    exact horder
  rewritten := eraseLast?_eq_some_iff text
  fewer next h := count_lt_of_eraseLast?_eq_some ((eraseLast?_eq_some_iff text next).mpr h)

/-- The loop over the rounds, which does not count them. -/
theorem eraseAtMost_rounds (text : List Char) (n : Nat) :
    Relation.ReflTransGen Round text (eraseAtMost text n) := by
  induction n generalizing text with
  | zero => exact .refl
  | succ n ih =>
    cases hlast : eraseLast? text with
    | none => rw [eraseAtMost_of_eq_none hlast]
    | some next =>
      rw [eraseAtMost_of_eq_some hlast]
      exact (ih next).head ((eraseLast?_eq_some_iff text next).mp hlast)

/-! ## The whole normalization -/

/-- Whether the scans over a list of tokens never count below zero. -/
structure ScansInBounds (ps : List Placed) : Prop where
  /-- The scan back from a question mark. -/
  condition : Scan.condition.run? 0 ps = some (splitCondition 0 ps)
  /-- The scan from a question mark to its colon. -/
  colon : (Scan.colon.run? 0 ps).map Scan.aroundColon = some (splitColon 0 ps)
  /-- The scan from a colon to the end of the conditional. -/
  alternative : Scan.alternative.run? 0 ps = some (splitAlternative 0 ps)

/-- Whether the normalization of a body comes to an end without leaving its texts. -/
structure NormalizesInBounds (body : List Char) : Prop where
  /-- Every semicolon is inserted in what has been written. -/
  respelled : respell? body = some (respell body)
  /-- The script is what one round after the other makes of that. -/
  rounds : Relation.ReflTransGen Round (respell body) (normalize body)
  /-- No round is left. -/
  done : ∀ next, ¬ Round (normalize body) next

/-- Whatever the body, its normalization ends and stays inside of its texts. The loops over
characters go forward and not beyond the end; the scans never count below zero; the ranges of the
operands stand in order in their text, and each round uses up a question mark. -/
theorem normalize_in_bounds (body : List Char) :
    NormalizesInBounds body ∧ (∀ text, MovesOn text) ∧ (∀ ps, ScansInBounds ps) ∧
      ∀ text, RoundInBounds text := by
  refine ⟨⟨respell?_eq body, eraseAtMost_rounds _ _, fun next h => ?_⟩, movesOn, fun ps => ?_,
    roundInBounds⟩
  · have hnone : eraseLast? (normalize body) = none := eraseLast?_eraseAtMost (le_refl _)
    have hsome := (eraseLast?_eq_some_iff (normalize body) next).mpr h
    exact absurd (hnone.symm.trans hsome) nofun
  · exact ⟨Scan.run?_condition 0 ps, Scan.run?_colon 0 ps, Scan.run?_alternative 0 ps⟩

end NavigationBar.Template
