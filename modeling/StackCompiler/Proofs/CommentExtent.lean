import StackCompiler.Proofs.DigitLimit
import StackCompiler.Proofs.TextReading

/-!
# How far a comment reaches

A comment is cut off line by line, after the text was divided into lines.  It
therefore reaches to the first line break of any kind.  A comment in which no
break stands leaves no trace in what is compiled.  One with a break in it does:
what comes after the break is a line of its own, and is compiled like any other.
-/

namespace StackCompiler

namespace Text

/-- A character inside a line belongs to the first line of the text that it
opens. -/
theorem splitLines_cons_eq {character : Char} (inside : isLineBreak character = false)
    {rest line : List Char} {lines : List (List Char)}
    (split : splitLines rest = line :: lines) :
    splitLines (character :: rest) = (character :: line) :: lines := by
  have notReturn : character ≠ '\r' := by
    rintro rfl
    cases inside
  rw [splitLines.eq_3 character rest fun _ isReturn => absurd isReturn notReturn,
    if_neg (by simp [inside]), split]

theorem splitLines_append_eq {inside rest line : List Char} {lines : List (List Char)}
    (unbroken : ∀ character ∈ inside, isLineBreak character = false)
    (split : splitLines rest = line :: lines) :
    splitLines (inside ++ rest) = (inside ++ line) :: lines := by
  induction inside with
  | nil => exact split
  | cons character others ih =>
      have tail := ih fun other member => unbroken other (by simp [member])
      exact splitLines_cons_eq (unbroken character (by simp)) tail

theorem splitLines_lineFeed (rest : List Char) :
    splitLines ('\n' :: rest) = [] :: splitLines rest :=
  splitLines_break (by decide) (by simp)

/-- A text falls into whole lines and one line that is still open.  What is
added to it before the next line feed continues that line.  Only a carriage
return at the end would take the line feed for itself. -/
theorem exists_open_line (text : List Char) (unreturned : text.getLast? ≠ some '\r') :
    ∃ whole opened, ∀ inside rest,
      (∀ character ∈ inside, isLineBreak character = false) →
        splitLines (text ++ (inside ++ '\n' :: rest)) =
          whole ++ (opened ++ inside) :: splitLines rest := by
  fun_induction splitLines text with
  | case1 =>
      refine ⟨[], [], fun inside rest unbroken => ?_⟩
      simpa using splitLines_append_eq unbroken (splitLines_lineFeed rest)
  | case2 rest ih =>
      obtain ⟨whole, opened, lines⟩ :=
        ih (getLast?_ne_of_cons (getLast?_ne_of_cons unreturned))
      refine ⟨[] :: whole, opened, fun inside after unbroken => ?_⟩
      rw [List.cons_append, List.cons_append, splitLines, lines inside after unbroken]
      rfl
  | case3 character rest unpaired isBreak ih =>
      obtain ⟨whole, opened, lines⟩ := ih (getLast?_ne_of_cons unreturned)
      refine ⟨[] :: whole, opened, fun inside after unbroken => ?_⟩
      rw [List.cons_append, splitLines_break isBreak, lines inside after unbroken]
      · rfl
      -- A carriage return is not the last character, and no line feed follows it.
      · rintro remaining rfl paired
        cases rest with
        | nil => exact unreturned rfl
        | cons next others =>
            injection paired with isFeed
            exact unpaired others rfl (by rw [isFeed])
  | case4 character rest _ inLine _ ih | case5 character rest _ inLine _ _ _ ih =>
      obtain ⟨whole, opened, lines⟩ := ih (getLast?_ne_of_cons unreturned)
      have unbroken : isLineBreak character = false := by simpa using inLine
      cases whole with
      | nil =>
          refine ⟨[], character :: opened, fun inside after unbrokenInside => ?_⟩
          exact splitLines_cons_eq unbroken (lines inside after unbrokenInside)
      | cons line others =>
          refine ⟨(character :: line) :: others, opened,
            fun inside after unbrokenInside => ?_⟩
          exact splitLines_cons_eq unbroken (lines inside after unbrokenInside)

end Text

/-- A comment after a space is no part of its line. -/
theorem cleanLine_comment (line comment : List Char) :
    cleanLine (String.ofList (line ++ ' ' :: '/' :: '/' :: comment)) =
      cleanLine (String.ofList line) := by
  have parts : String.ofList (line ++ ' ' :: '/' :: '/' :: comment) =
      String.ofList line ++ " " ++ "//" ++ String.ofList comment := by
    apply String.toList_injective
    simp
  have areBlank : Text.IsGap Text.isBlank " ".toList := by
    decide
  rw [parts, cleanLine_append_comment (by simp), cleanLine_append_blanks areBlank]

/-- Only the cleaned lines count. -/
theorem compile_congr {first second : List String}
    (same : first.map cleanLine = second.map cleanLine) (script : String)
    (policy : StaticPolicy) : compile script policy first = compile script policy second := by
  rw [compile_eq, compile_eq, sourceLines, sourceLines, same]

/-- A comment without a line break leaves no trace. -/
theorem compileText_comment (script : String) (policy : StaticPolicy)
    {before comment : String} (after : String)
    (unreturned : before.toList.getLast? ≠ some '\r')
    (unbroken : ∀ character ∈ comment.toList, Text.isLineBreak character = false) :
    compileText script policy (before ++ " //" ++ comment ++ "\n" ++ after) =
      compileText script policy (before ++ "\n" ++ after) := by
  obtain ⟨whole, opened, lines⟩ := Text.exists_open_line before.toList unreturned
  have commented : (before ++ " //" ++ comment ++ "\n" ++ after).toList =
      before.toList ++ ((' ' :: '/' :: '/' :: comment.toList) ++ '\n' :: after.toList) := by
    simp
  have plain : (before ++ "\n" ++ after).toList =
      before.toList ++ ([] ++ '\n' :: after.toList) := by
    simp
  have unbrokenAll : ∀ character ∈ ' ' :: '/' :: '/' :: comment.toList,
      Text.isLineBreak character = false := by
    simpa using ⟨by decide, by decide, unbroken⟩
  apply compile_congr
  rw [Text.lines, Text.lines, commented, plain, lines _ _ unbrokenAll,
    lines _ _ (by simp)]
  simp only [List.map_append, List.map_cons, cleanLine_comment, List.append_nil]

/-- A line break in a comment starts a line of its own, and the lines after the
comment are counted on from there. -/
theorem exists_holdsAt_after_break {comment : String}
    (unfed : ∀ character ∈ comment.toList, character ≠ '\n' ∧ character ≠ '\r')
    (broken : ∃ character ∈ comment.toList, Text.isLineBreak character = true) :
    ∃ number, 2 < number ∧
      HoldsAt (Text.lines ("" ++ " //" ++ comment ++ "\n" ++ "x")) number "x" := by
  obtain ⟨lineBreak, found⟩ := Option.isSome_iff_exists.mp (List.find?_isSome.mpr broken)
  obtain ⟨isBreak, first, tail, parts, unbroken⟩ := List.find?_eq_some_iff_append.mp found
  rw [parts] at unfed
  have unreturned : tail.getLast? ≠ some '\r' := fun isLast =>
    (unfed '\r' (by simp [List.mem_of_mem_getLast? isLast])).2 rfl
  obtain ⟨whole, opened, lines⟩ := Text.exists_open_line tail unreturned
  have remaining : Text.splitLines (lineBreak :: (tail ++ ([] ++ '\n' :: ['x']))) =
      [] :: (whole ++ [opened, ['x']]) := by
    rw [Text.splitLines_break isBreak fun _ isReturn =>
      absurd isReturn (unfed lineBreak (by simp)).2, lines [] ['x'] (by simp)]
    simp [Text.splitLines, Text.isLineBreak]
  have unbrokenAll : ∀ character ∈ ' ' :: '/' :: '/' :: first,
      Text.isLineBreak character = false := by
    simpa using ⟨by decide, by decide, by simpa using unbroken⟩
  have text : ("" ++ " //" ++ comment ++ "\n" ++ "x").toList =
      (' ' :: '/' :: '/' :: first) ++ lineBreak :: (tail ++ ([] ++ '\n' :: ['x'])) := by
    simp [parts]
  refine ⟨whole.length + 3, by omega, whole.length + 2, "x", ?_, rfl, by decide, by decide⟩
  rw [Text.lines, text, Text.splitLines_append_eq unbrokenAll remaining]
  simp

/-- A rejected line is complained about at every place where it stands. -/
theorem mem_complaints_iff_holdsAt {script : String} {policy : StaticPolicy}
    {lines : List String} {compilation : Compilation}
    (compiled : compile script policy lines = .ok compilation) {text : String}
    {cause : Rejection}
    (rejected : compileLine script policy text = .error (.rejected cause)) {number : Nat} :
    ⟨⟨number, text⟩, cause⟩ ∈ compilation.complaints ↔ HoldsAt lines number text := by
  rw [complaints_of_compile compiled, List.mem_filterMap, ← mem_sourceLines_iff]
  constructor
  · rintro ⟨line, member, made⟩
    obtain ⟨rfl, _⟩ := SourceLine.complaint?_eq_some_iff.mp made
    exact member
  · intro member
    exact ⟨_, member, SourceLine.complaint?_eq_some_iff.mpr ⟨rfl, rejected⟩⟩

/-- A comment leaves no trace, wherever it stands, exactly if there is no line
break of any kind in it.  The places before and after it are arbitrary, but for
a carriage return that the next line feed would complete, and for indices beyond
the digit limit. -/
theorem comment_leaves_no_trace_iff (comment : String)
    (unfed : ∀ character ∈ comment.toList, character ≠ '\n' ∧ character ≠ '\r') :
    (∀ script policy before after, before.toList.getLast? ≠ some '\r' →
      (∀ raw ∈ Text.lines (before ++ "\n" ++ after),
        Command.ShortIndex (cleanLine raw)) →
      ∃ compilation,
        compileText script policy (before ++ " //" ++ comment ++ "\n" ++ after) =
          .ok compilation ∧
        compileText script policy (before ++ "\n" ++ after) = .ok compilation) ↔
      ∀ character ∈ comment.toList, Text.isLineBreak character = false := by
  constructor
  -- A broken comment moves an unknown word on the second line further down.
  · intro traceless
    by_contra broken
    obtain ⟨number, below, holds⟩ := exists_holdsAt_after_break unfed (by simpa using broken)
    have plainLines : Text.lines ("" ++ "\n" ++ "x") = ["", "x"] := by
      decide +kernel
    have short : ∀ raw ∈ Text.lines ("" ++ "\n" ++ "x"),
        Command.ShortIndex (cleanLine raw) := by
      intro raw member
      have brief : ∀ raw ∈ ["", "x"], (cleanLine raw).toList.length ≤ 1 := by
        decide
      rw [plainLines] at member
      exact Command.shortIndex_of_length ((brief raw member).trans (by decide))
    have rejected : compileLine "" .symbols "x" =
        .error (.rejected (.malformed (.unknownOperation "x"))) := by
      decide
    obtain ⟨compilation, commented, plain⟩ := traceless "" .symbols "" "x" (by simp) short
    have moved := (mem_complaints_iff_holdsAt commented rejected).mpr holds
    obtain ⟨index, raw, found, isNumber, _⟩ :=
      (mem_complaints_iff_holdsAt plain rejected).mp moved
    rw [plainLines] at found
    have inside : index < 2 := (List.getElem?_eq_some_iff.mp found).1
    omega
  · intro unbroken script policy before after unreturned short
    obtain ⟨compilation, compiled⟩ :=
      (exists_compile_eq_ok_iff script policy _).mpr short
    refine ⟨compilation, ?_, compiled⟩
    rw [compileText_comment script policy after unreturned unbroken]
    exact compiled

/-- A comment with slashes in it, behind a command and before a line end of two
characters. -/
theorem comment_leaves_no_trace_iff_nested :
    let comment := " one // two\t"
    (∀ character ∈ comment.toList, character ≠ '\n' ∧ character ≠ '\r') ∧
      ∃ compilation,
        compileText "Main" .symbols
          ("// top\r\npush constant 1" ++ " //" ++ comment ++ "\n" ++ "\r\nadd") =
            .ok compilation ∧
        compileText "Main" .symbols
          ("// top\r\npush constant 1" ++ "\n" ++ "\r\nadd") = .ok compilation := by
  intro comment
  have unfed : ∀ character ∈ comment.toList, character ≠ '\n' ∧ character ≠ '\r' := by
    simp [comment]
  refine ⟨unfed, ?_⟩
  apply (comment_leaves_no_trace_iff comment unfed).mpr
    (by simp [comment, Text.isLineBreak])
  · decide
  · intro raw member
    have brief : ∀ raw ∈ Text.lines ("// top\r\npush constant 1" ++ "\n" ++ "\r\nadd"),
        (cleanLine raw).toList.length ≤ 100 := by
      decide +kernel
    exact Command.shortIndex_of_length ((brief raw member).trans (by decide))

/-- A form feed in a comment ends it, and the rest of the comment is compiled. -/
theorem comment_tail_is_compiled :
    let comment := " seven\x0cadd"
    let seven := Codegen.push .constant (.literal "7")
    (∀ character ∈ comment.toList, character ≠ '\n' ∧ character ≠ '\r') ∧
      compileText "Main" .symbols ("push constant 7" ++ " //" ++ comment ++ "\n" ++ "") =
        .ok (.compiled ⟨[seven, Codegen.arithmeticBlock .plus]⟩) ∧
      compileText "Main" .symbols ("push constant 7" ++ "\n" ++ "") =
        .ok (.compiled ⟨[seven]⟩) := by
  intro comment seven
  have commented : Text.lines ("push constant 7" ++ " //" ++ comment ++ "\n" ++ "") =
      ["push constant 7 // seven", "add"] := by
    decide +kernel
  have plain : Text.lines ("push constant 7" ++ "\n" ++ "") = ["push constant 7"] := by
    decide +kernel
  refine ⟨by simp [comment], ?_, ?_⟩
  · rw [compileText, commented]
    decide +kernel
  · rw [compileText, plain]
    decide +kernel

end StackCompiler
