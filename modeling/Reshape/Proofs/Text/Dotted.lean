import Mathlib.Data.String.Basic

/-!
# Dotted text

Routes and paths are read by splitting them at their dots.  What holds of the parts is known for
lists, so the first step is that a text splits as the list of its characters does
(`splitOn_dot`).  From there: the parts determine the text (`splitOn_dot_injective`), two texts
joined by a dot have the parts of both (`splitOn_dot_append`), and a part splits no further
(`splitOn_dot_of_mem`).
-/

namespace Reshape

open String (utf8Len ofList)

/-! ## The scan for dots -/

theorem utf8Len_concat (cs : List Char) (c : Char) :
    utf8Len (cs ++ [c]) = utf8Len cs + c.utf8Size := by
  simp

section Scan

variable (read pending rest : List Char) (parts : List String)

/-- At the end, what has been read since the last dot is the last part. -/
theorem splitOnAux_dot_nil :
    String.splitOnAux (ofList (read ++ pending ++ [])) "." ⟨utf8Len read⟩
      ⟨utf8Len (read ++ pending)⟩ 0 parts = parts.reverse ++ [ofList pending] := by
  have hend := (String.atEnd_of_valid (read ++ pending) []).2 rfl
  have hpart := String.extract_of_valid read pending []
  rw [← String.utf8Len_append] at hpart
  rw [String.splitOnAux, if_pos hend, hpart, List.reverse_cons]

/-- A dot ends a part. -/
theorem splitOnAux_dot_dot :
    String.splitOnAux (ofList (read ++ pending ++ '.' :: rest)) "." ⟨utf8Len read⟩
        ⟨utf8Len (read ++ pending)⟩ 0 parts =
      String.splitOnAux (ofList (read ++ pending ++ '.' :: rest)) "."
        ⟨utf8Len (read ++ pending ++ ['.'])⟩ ⟨utf8Len (read ++ pending ++ ['.'])⟩ 0
        (ofList pending :: parts) := by
  have hend := mt (String.atEnd_of_valid (read ++ pending) ('.' :: rest)).1 (List.cons_ne_nil _ _)
  have hnext : String.Pos.Raw.next (ofList (read ++ pending ++ '.' :: rest))
      ⟨utf8Len (read ++ pending)⟩ = ⟨utf8Len (read ++ pending ++ ['.'])⟩ := by
    rw [String.next_of_valid, utf8Len_concat]
  have hpart := String.extract_of_valid read pending ('.' :: rest)
  rw [← String.utf8Len_append] at hpart
  -- the part ends where the dot starts, one byte before the place that is read next
  have hback : (⟨utf8Len (read ++ pending ++ ['.'])⟩ : String.Pos.Raw).unoffsetBy
      (String.Pos.Raw.next "." 0) = ⟨utf8Len (read ++ pending)⟩ := by
    rw [utf8Len_concat]
    rfl
  rw [String.splitOnAux, if_neg hend, String.get_of_valid, hnext]
  refine (if_pos rfl).trans ((if_pos rfl).trans ?_)
  rw [hback, hpart]

/-- Any other character belongs to the part. -/
theorem splitOnAux_dot_cons {c : Char} (hc : c ≠ '.') :
    String.splitOnAux (ofList (read ++ pending ++ c :: rest)) "." ⟨utf8Len read⟩
        ⟨utf8Len (read ++ pending)⟩ 0 parts =
      String.splitOnAux (ofList (read ++ pending ++ c :: rest)) "." ⟨utf8Len read⟩
        ⟨utf8Len (read ++ (pending ++ [c]))⟩ 0 parts := by
  have hend := mt (String.atEnd_of_valid (read ++ pending) (c :: rest)).1 (List.cons_ne_nil _ _)
  have hget : ¬ (c == String.Pos.Raw.get "." 0) = true := mt beq_iff_eq.1 hc
  have hnext : String.Pos.Raw.next (ofList (read ++ pending ++ c :: rest))
      ((⟨utf8Len (read ++ pending)⟩ : String.Pos.Raw).unoffsetBy 0) =
        ⟨utf8Len (read ++ (pending ++ [c]))⟩ := by
    rw [← List.append_assoc, utf8Len_concat]
    exact String.next_of_valid (read ++ pending) c rest
  rw [String.splitOnAux, if_neg hend, String.get_of_valid, List.headD_cons, if_neg hget, hnext]

end Scan

/-- The scan reads the parts of what is left, the first of them with what is pending before it. -/
theorem splitOnAux_dot (read pending rest : List Char) (parts : List String) :
    String.splitOnAux (ofList (read ++ pending ++ rest)) "." ⟨utf8Len read⟩
        ⟨utf8Len (read ++ pending)⟩ 0 parts =
      parts.reverse ++ (List.splitOnPPrepend (· == '.') rest pending.reverse).map ofList := by
  induction rest generalizing read pending parts with
  | nil => rw [splitOnAux_dot_nil, List.splitOnPPrepend_nil, List.reverse_reverse, List.map_singleton]
  | cons c rest ih =>
    by_cases hc : c = '.'
    · subst hc
      have hrest := ih (read ++ pending ++ ['.']) [] (ofList pending :: parts)
      rw [splitOnAux_dot_dot, List.splitOnPPrepend_cons_pos rfl]
      simpa using hrest
    · have hrest := ih read (pending ++ [c]) parts
      rw [splitOnAux_dot_cons _ _ _ _ hc, List.splitOnPPrepend_cons_neg (by simpa using hc)]
      simpa using hrest

/-! ## The parts -/

/-- A text has the parts that the list of its characters has. -/
theorem splitOn_dot (s : String) : s.splitOn "." = (s.toList.splitOn '.').map ofList := by
  have hscan := splitOnAux_dot [] [] s.toList []
  simpa [String.splitOn, List.splitOn_eq_splitOnP] using hscan

/-- There is always a part. -/
theorem splitOn_dot_ne_nil (s : String) : s.splitOn "." ≠ [] := by
  rw [splitOn_dot]
  simp

/-- Texts with the same parts are the same. -/
theorem splitOn_dot_injective : Function.Injective fun s : String => s.splitOn "." := by
  intro s s' h
  simp only [splitOn_dot] at h
  have hparts : s.toList.splitOn '.' = s'.toList.splitOn '.' :=
    (List.map_inj_right fun _ _ => String.ofList_inj.1).1 h
  have hchars := congrArg (List.intercalate ['.']) hparts
  rw [List.intercalate_splitOn, List.intercalate_splitOn] at hchars
  exact String.toList_inj.1 hchars

/-- Two texts with a dot between them have the parts of the one, then those of the other. -/
theorem splitOn_dot_append (s s' : String) :
    (s ++ "." ++ s').splitOn "." = s.splitOn "." ++ s'.splitOn "." := by
  have hchars : (s ++ "." ++ s').toList = s.toList ++ '.' :: s'.toList := by
    simp
  rw [splitOn_dot, splitOn_dot, splitOn_dot, hchars, List.splitOn_append_cons_self, List.map_append]

/-- No part has a dot. -/
theorem dot_notMem_of_mem_splitOn {part cs : List Char} (h : part ∈ cs.splitOn '.') :
    '.' ∉ part := by
  induction cs generalizing part with
  | nil => simp_all
  | cons c rest ih =>
    by_cases hc : c = '.'
    · rw [List.splitOn_cons_eq_if_modifyHead, if_pos (beq_iff_eq.2 hc), List.mem_cons] at h
      rcases h with rfl | h
      · exact List.not_mem_nil
      · exact ih h
    · obtain ⟨first, others, hparts⟩ := List.exists_cons_of_ne_nil (List.splitOn_ne_nil '.' rest)
      rw [List.splitOn_cons_eq_if_modifyHead, if_neg (mt beq_iff_eq.1 hc), hparts,
        List.modifyHead_cons, List.mem_cons] at h
      rw [hparts] at ih
      rcases h with rfl | h
      · simpa [Ne.symm hc] using ih List.mem_cons_self
      · exact ih (List.mem_cons_of_mem _ h)

/-- A part is its own only part. -/
theorem splitOn_dot_of_mem {s part : String} (h : part ∈ s.splitOn ".") :
    part.splitOn "." = [part] := by
  rw [splitOn_dot, List.mem_map] at h
  obtain ⟨cs, hcs, rfl⟩ := h
  rw [splitOn_dot, String.toList_ofList,
    List.splitOn_eq_singleton (dot_notMem_of_mem_splitOn hcs), List.map_singleton]

end Reshape
