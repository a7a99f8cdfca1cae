import Storyboard.Proofs.Text.Words

namespace Storyboard.Text

/-!
# Lines that are put together again

Lines without newlines can be joined and are found again, except that a carriage
return in front of a newline is taken for a part of it and that an empty last
line is none.  Trimming sees neither of the two.
-/

/-- The text of some lines, with a newline between every two of them. -/
def joinLines (lines : List String) : String :=
  "\n".intercalate lines

/-- A piece holds no separator. -/
theorem separates_eq_false_of_mem_pieces
    {separates : Char → Bool}
    {text piece : List Char}
    (isPiece : piece ∈ pieces separates text) :
    ∀ c ∈ piece, separates c = false := by
  induction text generalizing piece with
  | nil =>
      rw [List.mem_singleton.mp isPiece]
      nofun
  | cons first rest inductionHypothesis =>
      rw [pieces_eq_splitOnP, List.splitOnP_cons_eq_if_modifyHead,
        ← pieces_eq_splitOnP] at isPiece
      split at isPiece
      · rcases List.mem_cons.mp isPiece with rfl | inRest
        · nofun
        · exact inductionHypothesis inRest
      · rename_i notSeparator
        rw [pieces, List.modifyHead_cons] at isPiece
        rcases List.mem_cons.mp isPiece with rfl | inRest
        · refine List.forall_mem_cons.mpr ⟨by simpa using notSeparator, ?_⟩
          exact inductionHypothesis (List.mem_cons_self ..)
        · exact inductionHypothesis (List.mem_cons_of_mem _ inRest)

theorem mem_of_mem_dropReturn
    {line : List Char}
    {c : Char}
    (member : c ∈ dropReturn line) :
    c ∈ line := by
  unfold dropReturn at member
  split at member
  · exact List.dropLast_subset line member
  · exact member

/-- No line of a text holds a newline. -/
theorem newline_notMem_of_mem_lines
    {text line : String}
    (isLine : line ∈ lines text) :
    '\n' ∉ line.toList := by
  obtain ⟨letters, isLetters, rfl⟩ := List.mem_map.mp isLine
  rw [String.toList_ofList]
  have noNewline : ∀ piece ∈ pieces (· = '\n') text.toList, '\n' ∉ piece := by
    intro piece isPiece member
    simpa using separates_eq_false_of_mem_pieces isPiece '\n' member
  rcases List.mem_append.mp isLetters with ended | isLast
  · obtain ⟨piece, isPiece, rfl⟩ := List.mem_map.mp ended
    intro member
    exact noNewline piece (List.dropLast_subset _ isPiece)
      (mem_of_mem_dropReturn member)
  · rw [Option.mem_toList, Option.filter_eq_some_iff] at isLast
    exact noNewline letters (List.mem_of_getLast? isLast.1)

/-- A carriage return at the end of a line is trimmed away. -/
theorem trimChars_dropReturn (line : List Char) :
    trimChars (dropReturn line) = trimChars line := by
  unfold dropReturn
  split
  · rename_i endsWithReturn
    have whole : line.dropLast ++ ['\r'] = line :=
      List.dropLast_append_getLast? '\r' endsWithReturn
    have isSpace : isBlank '\r' = true := by decide
    rw [← trimChars_append_of_isBlank line.dropLast isSpace, whole]
  · rfl

/--
Joined lines are found again, up to carriage returns and an empty last line.
-/
theorem lines_joinLines_concat
    {before : List String}
    {last : String}
    (noNewline : ∀ line ∈ before ++ [last], '\n' ∉ line.toList) :
    lines (joinLines (before ++ [last])) =
      before.map (fun line => .ofList (dropReturn line.toList)) ++
        if last = "" then [] else [last] := by
  have cut :
      pieces (· = '\n') (joinLines (before ++ [last])).toList =
        (before ++ [last]).map String.toList := by
    rw [pieces_eq_splitOnP, joinLines, String.toList_intercalate]
    apply List.splitOn_intercalate '\n'
    · intro letters member
      obtain ⟨line, isLine, rfl⟩ := List.mem_map.mp member
      exact noNewline line isLine
    · simp
  unfold lines lineChars
  rw [cut, List.map_append]
  by_cases isEmpty : last = ""
  · simp [isEmpty, Function.comp_def, Option.filter]
  · have notEmpty : last.toList ≠ [] := by simpa using isEmpty
    simp [isEmpty, notEmpty, Function.comp_def, Option.filter]

/-- Joined lines with a newline behind them are lines each ended by one. -/
theorem toList_joinLines_append
    {lines : List String}
    (someLine : lines ≠ []) :
    (joinLines lines ++ "\n").toList = lines.flatMap fun line =>
      (line ++ "\n").toList := by
  induction lines with
  | nil =>
      exact absurd rfl someLine
  | cons line rest inductionHypothesis =>
      rcases rest with _ | ⟨next, later⟩
      · simp [joinLines]
      · rw [List.flatMap_cons,
          ← inductionHypothesis (List.cons_ne_nil next later),
          ← String.toList_append, ← String.append_assoc, joinLines,
          String.intercalate_cons_cons, joinLines]

/--
Up to a newline and behind it, the pieces of a text are those of its two parts.
-/
theorem pieces_newline_append (before after : List Char) :
    pieces (· = '\n') (before ++ '\n' :: after) =
      pieces (· = '\n') before ++ pieces (· = '\n') after := by
  simp only [pieces_eq_splitOnP]
  exact List.splitOnP_append_cons before after (by simp)

/--
A text that ends with a newline does not share its last line with what follows.
-/
theorem lines_newline_append (before after : String) :
    lines (before ++ "\n" ++ after) =
      lines (before ++ "\n") ++ lines after := by
  have whole :
      pieces (· = '\n') (before ++ "\n" ++ after).toList =
        pieces (· = '\n') before.toList ++ pieces (· = '\n') after.toList := by
    rw [← pieces_newline_append]
    simp
  have ended :
      pieces (· = '\n') (before ++ "\n").toList =
        pieces (· = '\n') before.toList ++ [[]] := by
    have isEnd : (before ++ "\n").toList = before.toList ++ ['\n'] := by simp
    rw [isEnd]
    exact pieces_newline_append before.toList []
  have somePiece : pieces (· = '\n') after.toList ≠ [] :=
    List.cons_ne_nil _ _
  simp only [lines, lineChars, whole, ended]
  rw [List.dropLast_append_of_ne_nil somePiece,
    List.getLast?_append_of_ne_nil _ somePiece]
  simp [Option.filter]

/--
A text that is found again as a line: a carriage return at its end would be
lost.
-/
structure IsLine (text : String) : Prop where
  newline_notMem : '\n' ∉ text.toList
  getLast?_ne : text.toList.getLast? ≠ some '\r'

instance (text : String) : Decidable (IsLine text) :=
  decidable_of_iff ('\n' ∉ text.toList ∧ text.toList.getLast? ≠ some '\r')
    ⟨fun both => ⟨both.1, both.2⟩,
      fun isLine => ⟨isLine.newline_notMem, isLine.getLast?_ne⟩⟩

theorem isLine_of_notMem
    {text : String}
    (noNewline : '\n' ∉ text.toList)
    (noReturn : '\r' ∉ text.toList) :
    IsLine text :=
  ⟨noNewline, fun isLast => noReturn (List.mem_of_getLast? isLast)⟩

theorem IsLine.append
    {first second : String}
    (firstLine : IsLine first)
    (secondLine : IsLine second) :
    IsLine (first ++ second) where
  newline_notMem := by
    rw [String.toList_append, List.mem_append, not_or]
    exact ⟨firstLine.newline_notMem, secondLine.newline_notMem⟩
  getLast?_ne := by
    rw [String.toList_append, List.getLast?_append, Ne, Option.or_eq_some_iff,
      not_or, not_and]
    exact ⟨secondLine.getLast?_ne, fun _ => firstLine.getLast?_ne⟩

theorem IsLine.ofList_dropReturn
    {line : String}
    (isLine : IsLine line) :
    String.ofList (dropReturn line.toList) = line := by
  rw [dropReturn, if_neg isLine.getLast?_ne, String.ofList_toList]

/--
Joined lines of which the last one is not empty are found again as they are.
-/
theorem lines_joinLines
    {before : List String}
    {last : String}
    (areLines : ∀ line ∈ before, IsLine line)
    (lastLine : '\n' ∉ last.toList) :
    lines (joinLines (before ++ [last])) = before ++ if last = "" then []
      else [last] := by
  have noNewline : ∀ line ∈ before ++ [last], '\n' ∉ line.toList := by
    rw [List.forall_mem_append]
    exact ⟨fun line member => (areLines line member).newline_notMem,
      by simpa using lastLine⟩
  have unchanged : before.map
      (fun line => String.ofList (dropReturn line.toList)) = before :=
    (List.map_congr_left fun line member =>
      (areLines line member).ofList_dropReturn).trans
      (List.map_id before)
  rw [lines_joinLines_concat noNewline, unchanged]

/-- Lines of which each is ended by a newline are found again. -/
theorem lines_ended
    {parts : List String}
    (areLines : ∀ part ∈ parts, IsLine part) :
    lines (String.join (parts.map (· ++ "\n"))) = parts := by
  induction parts with
  | nil =>
      rfl
  | cons part rest inductionHypothesis =>
      rw [List.forall_mem_cons] at areLines
      have ended : lines (part ++ "\n") = [part] := by
        have joined : joinLines ([part] ++ [""]) = part ++ "\n" := by
          simp [joinLines]
        rw [← joined, lines_joinLines (by simpa using areLines.1) (by simp)]
        rfl
      rw [List.map_cons, String.join_cons, lines_newline_append, ended,
        inductionHypothesis areLines.2]
      rfl

end Storyboard.Text
