import Mathlib.Data.List.Basic
import NavigationBar.Display.Address

/-!
# Addresses by their segments

A relative address leads to a page if its segments, the parts between slashes, are the last ones of
the path of that page and the path has others before them. Empty segments count like any other, but
for the one after a slash at the end.
-/

namespace NavigationBar.Address

/-- The parts of a text between its slashes. One slash at the end of the text is dropped first. -/
def segments (cs : List Char) : List (List Char) :=
  ((cs.dropSuffix? ['/']).getD cs).splitOn '/'

theorem withoutLastSlash_eq (cs : List Char) :
    withoutLastSlash cs = (cs.dropSuffix? ['/']).getD cs := by
  unfold withoutLastSlash
  cases h : cs.dropSuffix? ['/'] with
  | none =>
    have hlast : cs.getLast? ≠ some '/' := by
      intro hlast
      obtain ⟨front, rfl⟩ := List.getLast?_eq_some_iff.mp hlast
      have hfront : (front ++ ['/']).dropSuffix? ['/'] = some front :=
        List.dropSuffix?_eq_some_iff.mpr ⟨['/'], rfl, rfl⟩
      rw [hfront] at h
      cases h
    rw [if_neg hlast, Option.getD_none]
  | some front =>
    obtain ⟨_, rfl, hslash⟩ := List.dropSuffix?_eq_some_iff.mp h
    obtain rfl := beq_iff_eq.mp hslash
    rw [if_pos List.getLast?_concat, List.dropLast_concat, Option.getD_some]

theorem intercalate_append {sep : List Char} {xs ys : List (List Char)} (hxs : xs ≠ [])
    (hys : ys ≠ []) :
    sep.intercalate (xs ++ ys) = sep.intercalate xs ++ sep ++ sep.intercalate ys := by
  induction xs with
  | nil => exact absurd rfl hxs
  | cons x xs ih =>
    by_cases hnil : xs = []
    · subst hnil
      rw [List.singleton_append, List.intercalate_cons_of_ne_nil hys, List.intercalate_singleton]
    · have happend : xs ++ ys ≠ [] := List.append_ne_nil_of_left_ne_nil hnil ys
      rw [List.cons_append, List.intercalate_cons_of_ne_nil happend,
        List.intercalate_cons_of_ne_nil hnil, ih hnil]
      simp only [List.append_assoc]

/-- A text ends in another one after a slash if its parts end in those of the other and begin with
some more. -/
theorem cons_slash_suffix_iff {a p : List Char} :
    '/' :: a <:+ p ↔ ∃ before, before ≠ [] ∧ p.splitOn '/' = before ++ a.splitOn '/' := by
  constructor
  · rintro ⟨front, rfl⟩
    refine ⟨front.splitOn '/', List.splitOn_ne_nil _ _, ?_⟩
    exact List.splitOnP_append_cons front a (beq_self_eq_true '/')
  · rintro ⟨before, hbefore, hp⟩
    have htext : p = ['/'].intercalate (before ++ a.splitOn '/') := by
      rw [← hp, List.intercalate_splitOn]
    rw [htext, intercalate_append hbefore (List.splitOn_ne_nil _ _), List.intercalate_splitOn,
      List.append_assoc]
    exact List.suffix_append _ _

/-- A relative address leads to a page if its segments are the last of the path's segments, and not
all of them. -/
theorem leadsTo_iff_segments {address : List Char} (h : address.head? ≠ some '/')
    (path : List Char) :
    leadsTo address path = true ↔
      ∃ before, before ≠ [] ∧ segments path = before ++ segments address := by
  rw [leadsTo, if_neg h, List.isSuffixOf_iff_suffix, cons_slash_suffix_iff, withoutLastSlash_eq,
    withoutLastSlash_eq]
  rfl

theorem leadsTo_iff_segments_nested :
    "b//c/".toList.head? ≠ some '/' ∧
      segments "/a/b//c".toList = [[], ['a']] ++ segments "b//c/".toList ∧
      leadsTo "b//c/".toList "/a/b//c".toList = true := by
  have h : "b//c/".toList.head? ≠ some '/' := by decide
  have hsegments : segments "/a/b//c".toList = [[], ['a']] ++ segments "b//c/".toList := by cbv
  exact ⟨h, hsegments, (leadsTo_iff_segments h _).mpr ⟨_, List.cons_ne_nil _ _, hsegments⟩⟩

/-- Part of a segment is no segment. -/
example : leadsTo "ome".toList "/a/home".toList = false := by decide

end NavigationBar.Address
