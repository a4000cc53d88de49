import Mathlib.Data.List.Basic
import Mathlib.Tactic.Common

/-!
# Text between markers

`str.count` and `str.partition`, and frames that can be taken apart: where the
content is a single line, the last line of the framed text is the content.
-/
namespace Foundation

/-- Occurrences of `needle` that do not overlap; the first `skip` characters belong to one that
was counted. -/
def countFrom (needle : List Char) (skip : ℕ) : List Char → ℕ
  | [] => 0
  | c :: cs =>
      if 0 < skip then countFrom needle (skip - 1) cs
      else if needle.isPrefixOf (c :: cs) then 1 + countFrom needle (needle.length - 1) cs
      else countFrom needle 0 cs

/-- `text.count(needle)`, for a needle that is not empty. -/
def pyCount (needle text : String) : ℕ := countFrom needle.toList 0 text.toList

/-- What is before and after the first occurrence of `needle`. -/
def splitAtFirst? (needle : List Char) : List Char → Option (List Char × List Char)
  | [] => if needle = [] then some ([], []) else none
  | c :: cs =>
      if needle.isPrefixOf (c :: cs) then some ([], (c :: cs).drop needle.length)
      else (splitAtFirst? needle cs).map fun parts => (c :: parts.1, parts.2)

/-- `text.partition(needle)`: what is before it, whether it is there, and what is after it. -/
def pyPartitionText (needle text : String) : String × Bool × String :=
  match splitAtFirst? needle.toList text.toList with
  | some parts => (.ofList parts.1, true, .ofList parts.2)
  | none => (text, false, "")

example : pyCount "aa" "aaaaa" = 2 ∧ pyPartitionText "--" "a--b--c" = ("a", true, "b--c") := by decide

/-- A text before a line feed, and the last line after it, are determined by the whole. -/
theorem append_lineFeed_inj {before before' line line' : List Char} (hline : '\n' ∉ line)
    (hline' : '\n' ∉ line') (h : before ++ '\n' :: line = before' ++ '\n' :: line') :
    before = before' ∧ line = line' := by
  rcases List.append_eq_append_iff.mp h with ⟨middle, rfl, htail⟩ | ⟨middle, rfl, htail⟩
  · cases middle with
    | nil =>
        rw [List.nil_append, List.cons.injEq] at htail
        exact ⟨(List.append_nil before).symm, htail.2⟩
    | cons c middle =>
        rw [List.cons_append, List.cons.injEq] at htail
        refine absurd ?_ hline
        rw [htail.2]
        exact List.mem_append_right _ List.mem_cons_self
  · cases middle with
    | nil =>
        rw [List.nil_append, List.cons.injEq] at htail
        exact ⟨List.append_nil before', htail.2.symm⟩
    | cons c middle =>
        rw [List.cons_append, List.cons.injEq] at htail
        refine absurd ?_ hline'
        rw [htail.2]
        exact List.mem_append_right _ List.mem_cons_self

/-- A frame around a single line: the content is determined by the framed text, and so is all that
stands before it. -/
theorem frame_inj {before before' line line' closing : String} (hline : '\n' ∉ line.toList)
    (hline' : '\n' ∉ line'.toList)
    (h : before ++ "\n" ++ line ++ closing = before' ++ "\n" ++ line' ++ closing) :
    before = before' ∧ line = line' := by
  have hchars := congrArg String.toList h
  simp only [String.toList_append] at hchars
  have hframe := List.append_cancel_right hchars
  have hfeed : "\n".toList = ['\n'] := rfl
  rw [hfeed, List.append_assoc, List.append_assoc, List.singleton_append,
    List.singleton_append] at hframe
  obtain ⟨hbefore, hcontent⟩ := append_lineFeed_inj hline hline' hframe
  exact ⟨String.toList_inj.mp hbefore, String.toList_inj.mp hcontent⟩

end Foundation
