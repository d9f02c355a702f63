import Chip8.Path
import Mathlib.Data.String.Basic

/-! Texts split at a character. A text without a slash is a path of one part, its own name. -/
namespace Chip8
namespace Text
open String

theorem splitFrom (c : Char) (l m r : List Char) (acc : List String) :
    (ofList (l ++ m ++ r)).splitOnAux (singleton c) ⟨utf8Len l⟩ ⟨utf8Len l + utf8Len m⟩ 0 acc =
      acc.reverse ++ (List.splitOnPPrepend (· == c) r m.reverse).map ofList := by
  induction r generalizing l m acc with
  | nil =>
    rw [splitOnAux, if_pos (by simp [-ofList_append])]
    simpa using extract_of_valid l m []
  | cons d r ih =>
    have wide := d.utf8Size_pos
    have unread : ¬Pos.Raw.atEnd (ofList (l ++ m ++ d :: r)) ⟨utf8Len l + utf8Len m⟩ = true := by
      simp [-ofList_append]
      omega
    have part := extract_of_valid l m (d :: r)
    have read := get_of_valid (l ++ m) (d :: r)
    have behind := next_of_valid (l ++ m) d r
    have separator : Pos.Raw.get (singleton c) 0 = c := by simpa using get_of_valid [] [c]
    have past : Pos.Raw.next (singleton c) 0 = ⟨c.utf8Size⟩ := by simpa using next_of_valid [] c []
    have whole : Pos.Raw.atEnd (singleton c) ⟨c.utf8Size⟩ = true := by
      simp [singleton_eq_ofList, -ofList_cons]
    have split := ih (l ++ m ++ [d]) [] (ofList m :: acc)
    have kept := ih l (m ++ [d]) acc
    rw [List.append_nil, List.append_assoc, List.singleton_append] at split
    rw [← List.append_assoc, List.append_assoc, List.singleton_append] at kept
    rw [utf8Len_append] at read behind
    -- From here on nothing looks into the text.
    generalize ofList (l ++ m ++ d :: r) = s at *
    rw [splitOnAux, if_neg unread, read, separator]
    by_cases found : d = c
    · subst found
      have back : utf8Len l + utf8Len m + d.utf8Size - d.utf8Size = utf8Len l + utf8Len m := by
        omega
      simp_all [List.splitOnPPrepend_cons_eq_if, Pos.Raw.unoffsetBy, Nat.add_assoc]
    · simp_all [List.splitOnPPrepend_cons_eq_if, Pos.Raw.unoffsetBy, Nat.add_assoc]

theorem splitOnChar (s : String) (c : Char) :
    s.splitOn (singleton c) = (s.toList.splitOn c).map ofList := by
  have separator : (singleton c == "") = false := by simp
  rw [splitOn, separator]
  simpa [List.splitOn] using splitFrom c [] [] s.toList []

end Text

namespace Path

theorem plainPath {text : String} (plain : '/' ∉ text.toList) (some : text ≠ "")
    (other : text ≠ ".") : Path.ofText text = ⟨"", [text]⟩ := by
  have split := Text.splitOnChar text '/'
  rw [List.splitOn_eq_singleton plain, List.map_singleton, String.ofList_toList] at split
  have one : text.splitOn "/" = [text] := split
  have rootless : rootOf text.toList = "" := by
    unfold rootOf
    split <;> simp_all
  simp [ofText, one, rootless, some, other]

theorem plainName {text : String} (plain : '/' ∉ text.toList) (some : text ≠ "")
    (other : text ≠ ".") : (Path.ofText text).name = text := by
  rw [plainPath plain some other]
  rfl

end Path

end Chip8
