import Mathlib
import CellSearch.Proofs.Regex.Reads

/-!
# Patterns wrapped in word boundaries

To find whole words only, the text of a pattern is put between `\b(?:` and `)\b`. What the wrapped
text is read as depends on where its first parenthesis is closed:

* by the one that was put there, if the text is a pattern and leaves that one to be read
  (`parse_wrap`); then the wrapped text is the pattern between two word boundaries;
* by none, if the text ends in a comment, which goes on over what is put behind it
  (`parse_wrap_of_comment`);
* by one in the text, if the text is no pattern for having closed a group that it did not open.
  Only then can the wrapped text be a pattern although the text is none (`parse_of_parse_wrap`).
-/

namespace CellSearch.Regex

open Reader

variable {caseless : Bool} {cs : List Char} {r : Regex}

/-- The text of a pattern between word boundaries. -/
def wrap (cs : List Char) : List Char :=
  "\\b(?:".toList ++ cs ++ ")\\b".toList

/-- A pattern between word boundaries. -/
def wholeWord (r : Regex) : Regex :=
  .seq (.look (.wordBoundary false)) (.seq r (.look (.wordBoundary false)))

/-- The text is a pattern that ends in a comment: a parenthesis behind it is part of the
comment. -/
def EndsInComment (caseless : Bool) (cs : List Char) : Prop :=
  (parse caseless cs).isSome ∧ (parse caseless (cs ++ [')'])).isSome

/-- The text has a parenthesis that closes no group: a pattern stands before it that is none with
the parenthesis. -/
def ClosesTooMuch (caseless : Bool) (cs : List Char) : Prop :=
  ∃ front back, cs = front ++ ')' :: back ∧ (parse caseless front).isSome ∧
    parse caseless (front ++ [')']) = none

/-! ## The ends of a group -/

theorem Reader.finish_eq_some_iff {s : Reader} :
    s.finish = some r ↔ s.outer = [] ∧ s.value = r := by
  cases houter : s.outer <;> simp [finish, houter]

theorem parse_eq_some_iff : parse caseless cs = some r ↔
    ∃ t last, Reads (start { caseless }) cs t last ∧ t.flags.skip last = [] ∧
      t.outer = [] ∧ t.value = r := by
  simp only [parse_eq, read_eq_some_iff, finish_eq_some_iff]

/-- Outside of all groups a parenthesis is refused. -/
theorem Reader.Reaches.read_eq_none {s t : Reader} {last back : List Char}
    (h : Reaches s cs t last) (houter : t.outer = []) : s.read (cs ++ ')' :: back) = none := by
  obtain ⟨hreads, hskip⟩ := h back
  rw [hreads.read_eq]
  apply read_of_next_eq_none
  · rw [hskip]
    exact List.cons_ne_nil _ _
  · simp only [next, hskip, step, closeGroup, houter, Option.map_none]

/-- The group that the wrapped text opens. -/
def wrapper (caseless : Bool) : OpenGroup :=
  ⟨[], [.pattern (.look (.wordBoundary false))], { caseless }⟩

/-- The wrapped text is read as the text in a group and what is put behind it. -/
theorem parse_wrap_eq (caseless : Bool) (cs : List Char) : parse caseless (wrap cs) =
    (nest (wrapper caseless) (start { caseless })).read (cs ++ ')' :: ['\\', 'b']) := by
  have hboundary : (start { caseless }).next (wrap cs) =
      some ((start { caseless }).push (.look (.wordBoundary false)),
        '(' :: '?' :: ':' :: (cs ++ ')' :: ['\\', 'b'])) := by
    rfl
  have hgroup : ((start { caseless }).push (.look (.wordBoundary false))).next
      ('(' :: '?' :: ':' :: (cs ++ ')' :: ['\\', 'b'])) =
      some (nest (wrapper caseless) (start { caseless }), cs ++ ')' :: ['\\', 'b']) := by
    rfl
  rw [parse_eq, read_of_next hboundary, read_of_next hgroup]

/-- At the end of the wrapped text the group is closed and a word boundary added. -/
theorem read_wrap_end {t : Reader} {last : List Char} (houter : t.outer = [])
    (hskip : t.flags.skip (last ++ ')' :: ['\\', 'b']) = ')' :: ['\\', 'b']) :
    (nest (wrapper caseless) t).read (last ++ ')' :: ['\\', 'b']) =
      some (wholeWord t.value) := by
  have hclose : (nest (wrapper caseless) t).next (last ++ ')' :: ['\\', 'b']) =
      some (⟨[], [.pattern (.look (.wordBoundary false)), .pattern t.value], { caseless }, [],
        t.names⟩, ['\\', 'b']) := by
    simp only [next, hskip, step, closeGroup, nest, houter]
    rfl
  rw [read_of_next hclose]
  rfl

/-! ## Whose parenthesis closes the group -/

/-- A pattern that leaves the parenthesis behind it to be read is wrapped as it is. -/
theorem parse_wrap (hparse : parse caseless cs = some r)
    (hcomment : ¬EndsInComment caseless cs) : parse caseless (wrap cs) = some (wholeWord r) := by
  obtain ⟨t, last, hreads, hend, houter, rfl⟩ := parse_eq_some_iff.mp hparse
  rcases hreads.append hend with hreach | hswallow
  · obtain ⟨hback, hskip⟩ := hreach ['\\', 'b']
    rw [parse_wrap_eq, (hback.nest (wrapper caseless)).read_eq, read_wrap_end houter hskip]
  · -- otherwise a comment goes on at the end
    obtain ⟨last', hback, hend'⟩ := hswallow [] (by simp)
    refine absurd ⟨by rw [hparse]; rfl, ?_⟩ hcomment
    rw [parse_eq_some_iff.mpr ⟨t, last', hback, hend', houter, rfl⟩]
    rfl

/-- A comment at the end of a pattern goes on over what is put behind it, and the group stays
open. -/
theorem parse_wrap_of_comment (hcomment : EndsInComment caseless cs) :
    parse caseless (wrap cs) = none := by
  obtain ⟨hparse, hparen⟩ := hcomment
  obtain ⟨r, hr⟩ := Option.isSome_iff_exists.mp hparse
  obtain ⟨t, last, hreads, hend, houter, rfl⟩ := parse_eq_some_iff.mp hr
  rcases hreads.append hend with hreach | hswallow
  · -- a parenthesis that is not swallowed would have been refused
    rw [parse_eq, hreach.read_eq_none houter] at hparen
    cases hparen
  · obtain ⟨last', hback, hend'⟩ := hswallow ['\\', 'b'] (by decide)
    have hskip : (nest (wrapper caseless) t).flags.skip last' = [] := hend'
    rw [parse_wrap_eq, (hback.nest (wrapper caseless)).read_eq, read_of_skip_eq_nil hskip]
    simp [finish, nest]

/-- A text that closes too much is no pattern. -/
theorem ClosesTooMuch.parse_eq_none (h : ClosesTooMuch caseless cs) : parse caseless cs = none := by
  obtain ⟨front, back, rfl, hparse, hparen⟩ := h
  obtain ⟨r, hr⟩ := Option.isSome_iff_exists.mp hparse
  obtain ⟨t, last, hreads, hend, houter, rfl⟩ := parse_eq_some_iff.mp hr
  rcases hreads.append hend with hreach | hswallow
  · exact hreach.read_eq_none houter
  · obtain ⟨last', hback, hend'⟩ := hswallow [] (by simp)
    rw [parse_eq_some_iff.mpr ⟨t, last', hback, hend', houter, rfl⟩] at hparen
    cases hparen

/-- The wrapped text is a pattern only if the text is one or closes too much. -/
theorem parse_of_parse_wrap (h : (parse caseless (wrap cs)).isSome) :
    (parse caseless cs).isSome ∨ ClosesTooMuch caseless cs := by
  obtain ⟨r, hr⟩ := Option.isSome_iff_exists.mp h
  rw [parse_wrap_eq, read_eq_some_iff] at hr
  obtain ⟨t, last, hreads, hend, hfinish⟩ := hr
  obtain ⟨houter, -⟩ := finish_eq_some_iff.mp hfinish
  obtain ⟨u, mid, hmid, houter', hstop⟩ := hreads.of_nest rfl rfl (by decide) hend houter
  rcases hstop with hend' | ⟨back, hparen⟩
  · left
    rw [parse_eq_some_iff.mpr ⟨u, mid, hmid, hend', houter', rfl⟩]
    rfl
  · -- the text before the parenthesis is read to its end, and the parenthesis is refused
    have hsuffix : ')' :: back <:+ cs := by
      have hskip := u.flags.skip_suffix mid
      rw [hparen] at hskip
      exact hskip.trans hmid.suffix
    obtain ⟨front, rfl⟩ := hsuffix
    obtain ⟨last', hfront, hend', hreach⟩ := hmid.of_append rfl hparen
    refine Or.inr ⟨front, back, rfl, ?_, hreach.read_eq_none houter'⟩
    rw [parse_eq_some_iff.mpr ⟨u, last', hfront, hend', houter', rfl⟩]
    rfl

end CellSearch.Regex
