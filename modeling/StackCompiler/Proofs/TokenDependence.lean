import StackCompiler.Proofs.DigitLimit

/-!
# Only tokens count

Two readers look at a line: the grammar divides it at spaces and tabs, and the
explanation of a rejected line divides it at every kind of blank.  The second
division refines the first, so what is made of a line depends on its tokens
alone.  Lines with nothing left after cleaning have no tokens; they move the
other lines to other places, and that is all they do.
-/

namespace StackCompiler

namespace Text

variable {separates : Char → Bool}

theorem tokens_append_of_endsWord (front : List Char) {back : List Char}
    (ends : EndsWord separates back) :
    tokens separates (front ++ back) =
      tokens separates front ++ tokens separates back := by
  cases back with
  | nil => simp
  | cons separator rest =>
      have isSeparator : separates separator = true := ends separator rfl
      have behind := tokens_append_separator isSeparator [] rest
      rw [List.nil_append, tokens_nil, List.nil_append] at behind
      rw [tokens_append_separator isSeparator, behind]

/-- With more separators, the tokens of a text are those of its tokens. -/
theorem tokens_eq_flatMap {narrow wide : Char → Bool}
    (wider : ∀ character, narrow character = true → wide character = true)
    (text : List Char) :
    tokens wide text = (tokens narrow text).flatMap (tokens wide) := by
  have gaps : ∀ gap, IsGap narrow gap → IsGap wide gap :=
    fun gap isGap character member => wider character (isGap character member)
  generalize found : tokens narrow text = words
  induction words generalizing text with
  | nil => exact tokens_gap (gaps text (isGap_of_tokens_eq_nil found))
  | cons word words ih =>
      obtain ⟨gap, rest, rfl, isGap, _, ends, remaining⟩ :=
        exists_of_tokens_eq_cons found
      have endsWide : EndsWord wide rest := fun character isHead =>
        wider character (ends character isHead)
      rw [tokens_gap_append (gaps gap isGap), tokens_append_of_endsWord word endsWide,
        ih rest remaining, List.flatMap_cons]

end Text

/-- The tokens of a line, which are separated by spaces and tabs. -/
def lineTokens (line : String) : List (List Char) :=
  Text.tokens Sentence.isGap line.toList

theorem Sentence.isBlank_of_isGap {character : Char} (gap : isGap character = true) :
    Text.isBlank character = true := by
  simp only [isGap, Bool.or_eq_true, beq_iff_eq] at gap
  rcases gap with rfl | rfl
  · decide
  · decide

/-- The words of a line are found in its tokens. -/
theorem words_eq_of_lineTokens {first second : String}
    (same : lineTokens first = lineTokens second) : Text.words first = Text.words second := by
  have refined : ∀ line : String, Text.tokens Text.isBlank line.toList =
      (lineTokens line).flatMap (Text.tokens Text.isBlank) := fun line =>
    Text.tokens_eq_flatMap (fun _ gap => Sentence.isBlank_of_isGap gap) line.toList
  rw [Text.words, Text.words, refined, refined, same]

/-- A line is read, or explained, by its tokens. -/
theorem Command.parse_congr {first second : String}
    (same : lineTokens first = lineTokens second) : parse first = parse second := by
  have sameSentence : Sentence.parse? first = Sentence.parse? second :=
    congrArg Sentence.ofTokens? same
  rw [parse, parse, sameSentence, Malformation.describe, Malformation.describe,
    words_eq_of_lineTokens same]

theorem cleanLine_eq_empty_iff {raw : String} :
    cleanLine raw = "" ↔ lineTokens (cleanLine raw) = [] := by
  constructor
  · intro empty
    rw [empty]
    rfl
  · intro untokened
    have gap := Text.isGap_of_tokens_eq_nil untokened
    rw [cleanLine, String.toList_ofList] at gap
    rw [cleanLine, Text.trim_eq_nil_of_blank fun character member =>
      Sentence.isBlank_of_isGap (gap character member)]

/-- Why a text is rejected, if it is. -/
def rejection? (script : String) (policy : StaticPolicy) (text : String) :
    Option Rejection :=
  match compileLine script policy text with
  | .error (.rejected cause) => some cause
  | _ => none

namespace SourceLine

theorem complaint?_eq_map (script : String) (policy : StaticPolicy)
    (line : SourceLine) :
    line.complaint? script policy =
      (rejection? script policy line.text).map fun cause => ⟨line, cause⟩ := by
  rw [complaint?, rejection?]
  cases compileLine script policy line.text with
  | ok block => rfl
  | error fault => cases fault <;> rfl

/-- Whether two source lines have the same tokens. -/
def Alike (first second : SourceLine) : Prop :=
  lineTokens first.text = lineTokens second.text

section Alike

variable {first second : SourceLine} (alike : first.Alike second) (script : String)
  (policy : StaticPolicy)

include alike

theorem Alike.oversize?_eq : first.oversize? = second.oversize? := by
  rw [oversize?, oversize?, Command.parse_congr alike]

theorem Alike.compileLine_eq :
    compileLine script policy first.text = compileLine script policy second.text := by
  rw [compileLine, compileLine, Command.parse_congr alike]

theorem Alike.block?_eq :
    first.block? script policy = second.block? script policy := by
  rw [block?, block?, alike.compileLine_eq]

/-- Lines with the same tokens are complained about in the same way, as far as
the view does not tell the lines apart. -/
theorem Alike.map_complaint?_eq {α : Type} {view : Diagnostic → α}
    (unseen : ∀ cause, view (Complaint.mk first cause).diagnostic =
      view (Complaint.mk second cause).diagnostic) :
    (first.complaint? script policy).map (fun complaint => view complaint.diagnostic) =
      (second.complaint? script policy).map fun complaint => view complaint.diagnostic := by
  have sameCause : rejection? script policy first.text =
      rejection? script policy second.text := by
    rw [rejection?, rejection?, alike.compileLine_eq]
  rw [complaint?_eq_map, complaint?_eq_map, Option.map_map, Option.map_map, sameCause]
  congr 1
  funext cause
  exact unseen cause

end Alike

end SourceLine

theorem map_eq_iff_forall₂ {α β : Type} {f : α → β} {first second : List α} :
    first.map f = second.map f ↔
      List.Forall₂ (fun element other => f element = f other) first second := by
  rw [← List.forall₂_eq_eq_eq, List.forall₂_map_left_iff, List.forall₂_map_right_iff]

theorem filterMap_eq_of_forall₂ {α β : Type} {Related : α → α → Prop} {pick : α → Option β}
    (agrees : ∀ first second, Related first second → pick first = pick second)
    {firsts seconds : List α} (related : List.Forall₂ Related firsts seconds) :
    firsts.filterMap pick = seconds.filterMap pick := by
  induction related with
  | nil => rfl
  | cons head _ ih => rw [List.filterMap_cons, List.filterMap_cons, agrees _ _ head, ih]

/-- Related source lines are visited up to related ones. -/
theorem forall₂_upToOversize {Related : SourceLine → SourceLine → Prop}
    (alike : ∀ first second, Related first second → first.Alike second)
    {firsts seconds : List SourceLine} (related : List.Forall₂ Related firsts seconds) :
    List.Forall₂ Related (upToOversize firsts) (upToOversize seconds) := by
  induction related with
  | nil => exact .nil
  | @cons line other _ _ head _ ih =>
      rw [upToOversize, upToOversize, (alike line other head).oversize?_eq]
      split
      · exact .cons head .nil
      · exact .cons head ih

/-- The program of a compilation, and what a view shows of its diagnostics. -/
def Compilation.seenBy {α : Type} (view : Diagnostic → α) (compilation : Compilation) :
    Option Program × List α :=
  (compilation.program?, compilation.diagnostics.map view)

section Sources

variable {script : String} {policy : StaticPolicy} {α : Type} {view : Diagnostic → α}

/-- What is shown of a compilation, from what its source lines give. -/
theorem compile_seenBy (lines : List String) :
    let source := sourceLines lines
    let shown := source.filterMap fun line =>
      (line.complaint? script policy).map fun complaint => view complaint.diagnostic
    (compile script policy lines).map (Compilation.seenBy view) =
      match (source.filterMap SourceLine.oversize?).head? with
      | some oversize => .error oversize
      | none =>
          .ok (if shown.isEmpty then
            some ⟨source.filterMap (SourceLine.block? script policy)⟩ else none, shown) := by
  intro source shown
  have isMap : shown = (source.filterMap (SourceLine.complaint? script policy)).map
      fun complaint => view complaint.diagnostic := by
    rw [List.map_filterMap]
  rw [compile_eq, List.head?_filterMap]
  cases source.findSome? SourceLine.oversize? with
  | some oversize => rfl
  | none =>
      rw [isMap]
      simp [Except.map, Compilation.seenBy, Compilation.diagnostics,
        Compilation.complaints_conclude, Compilation.program?_conclude, source]

/-- Sources whose lines have the same tokens show the same, as far as the view
does not tell their lines apart. -/
theorem compile_seenBy_congr {Related : SourceLine → SourceLine → Prop}
    (alike : ∀ first second, Related first second → first.Alike second)
    (unseen : ∀ first second, Related first second → ∀ cause,
      view (Complaint.mk first cause).diagnostic =
        view (Complaint.mk second cause).diagnostic)
    {first second : List String}
    (related : List.Forall₂ Related (sourceLines first) (sourceLines second)) :
    (compile script policy first).map (Compilation.seenBy view) =
      (compile script policy second).map (Compilation.seenBy view) := by
  have oversizes := filterMap_eq_of_forall₂
    (fun line other isRelated => (alike line other isRelated).oversize?_eq) related
  have blocks := filterMap_eq_of_forall₂
    (fun line other isRelated => (alike line other isRelated).block?_eq script policy) related
  have shown := filterMap_eq_of_forall₂
    (fun line other isRelated => (alike line other isRelated).map_complaint?_eq script policy
      (unseen line other isRelated)) related
  rw [compile_seenBy, compile_seenBy, oversizes, blocks, shown]

end Sources

/-- The source lines of a source whose first line has the given number. -/
def numberedFrom (start : Nat) (lines : List String) : List SourceLine :=
  ((lines.map cleanLine).zipIdx start).filterMap fun (text, number) =>
    if text.isEmpty then none else some ⟨number, text⟩

theorem numberedFrom_cons (start : Nat) (raw : String) (rest : List String) :
    numberedFrom start (raw :: rest) =
      if cleanLine raw = "" then numberedFrom (start + 1) rest
      else ⟨start, cleanLine raw⟩ :: numberedFrom (start + 1) rest := by
  rw [numberedFrom, List.map_cons, List.zipIdx_cons, List.filterMap_cons]
  by_cases empty : cleanLine raw = ""
  · simp [empty, numberedFrom]
  · simp [empty, numberedFrom]

/-- Lines with the same tokens, position by position, are source lines at the same
places. -/
theorem forall₂_numberedFrom {first second : List String}
    (same : List.Forall₂
      (fun raw other => lineTokens (cleanLine raw) = lineTokens (cleanLine other))
      first second) (start : Nat) :
    List.Forall₂ (fun line other => line.number = other.number ∧ line.Alike other)
      (numberedFrom start first) (numberedFrom start second) := by
  induction same generalizing start with
  | nil => exact .nil
  | @cons raw other first second tokens _ ih =>
      have bothEmpty : cleanLine raw = "" ↔ cleanLine other = "" := by
        rw [cleanLine_eq_empty_iff, cleanLine_eq_empty_iff, tokens]
      rw [numberedFrom_cons, numberedFrom_cons]
      by_cases empty : cleanLine raw = ""
      · rw [if_pos empty, if_pos (bothEmpty.mp empty)]
        exact ih (start + 1)
      · rw [if_neg empty, if_neg (mt bothEmpty.mpr empty)]
        exact .cons ⟨rfl, tokens⟩ (ih (start + 1))

/-- Whether something is left of a line after cleaning. -/
def holdsText (raw : String) : Bool :=
  !(cleanLine raw).isEmpty

/-- Dropping lines with nothing left leaves the source lines, but for their
places. -/
theorem forall₂_of_filter_holdsText {first second : List String}
    (same : first.filter holdsText = second.filter holdsText) :
    List.Forall₂ (fun line other => line.text = other.text)
      (sourceLines first) (sourceLines second) := by
  have cleaned : ∀ lines : List String,
      (sourceLines lines).map SourceLine.text = (lines.filter holdsText).map cleanLine := by
    intro lines
    have picks : (fun text : String => !text.isEmpty) ∘ cleanLine = holdsText := by
      funext raw
      rw [holdsText, Function.comp_apply]
    rw [sourceLines_map_text, cleanedLines, List.filter_map, picks]
  have texts : (sourceLines first).map SourceLine.text =
      (sourceLines second).map SourceLine.text := by
    rw [cleaned, cleaned, same]
  exact map_eq_iff_forall₂.mp texts

/-- What becomes of a source depends on the tokens of its lines.  Two sources
whose cleaned lines have the same tokens, position by position, become the same
program or have the same diagnostics up to the recorded texts.  Inserting and
deleting lines with nothing left changes the line numbers only, in the
diagnostics and in what is visited.  Within the digit limit there is always such
a result. -/
theorem compile_depends_on_tokens (script : String) (policy : StaticPolicy)
    (first second : List String) :
    (first.map (fun raw => lineTokens (cleanLine raw)) =
        second.map (fun raw => lineTokens (cleanLine raw)) →
      (compile script policy first).map (Compilation.seenBy fun diagnostic =>
          (diagnostic.category, diagnostic.message, diagnostic.line)) =
        (compile script policy second).map (Compilation.seenBy fun diagnostic =>
          (diagnostic.category, diagnostic.message, diagnostic.line))) ∧
    (first.filter holdsText = second.filter holdsText →
      (compile script policy first).map (Compilation.seenBy fun diagnostic =>
          (diagnostic.category, diagnostic.message, diagnostic.text)) =
        (compile script policy second).map (Compilation.seenBy fun diagnostic =>
          (diagnostic.category, diagnostic.message, diagnostic.text)) ∧
      (visitedLines script policy first).map SourceLine.text =
        (visitedLines script policy second).map SourceLine.text) ∧
    ((∀ raw ∈ first, Command.ShortIndex (cleanLine raw)) →
      ∃ compilation, compile script policy first = .ok compilation) := by
  refine ⟨?_, ?_, (exists_compile_eq_ok_iff script policy first).mpr⟩
  · intro same
    have related := forall₂_numberedFrom (map_eq_iff_forall₂.mp same) 1
    refine compile_seenBy_congr (fun _ _ placed => placed.2) ?_ related
    intro line other placed cause
    simp only [Complaint.diagnostic, Diagnostic.locate, placed.1]
  · intro same
    have related := forall₂_of_filter_holdsText same
    have alike : ∀ line other : SourceLine, line.text = other.text → line.Alike other :=
      fun _ _ text => congrArg lineTokens text
    constructor
    · refine compile_seenBy_congr alike ?_ related
      intro line other text cause
      simp only [Complaint.diagnostic, Diagnostic.locate, text]
    · rw [visitedLines_eq, visitedLines_eq]
      exact map_eq_iff_forall₂.mpr (forall₂_upToOversize alike related)

/-- A rejected line is spaced in another way, with a blank in it that is no
separator, and comments come and go around it. -/
theorem compile_depends_on_tokens_respaced :
    let lines := ["push  constant\t7 // seven", "", "pop local\u00a03\tx", "add"]
    let respaced := [" push constant 7", "\t// none", "pop\t local\u00a03 x // last", "add "]
    let moved := ["// top", "push  constant\t7 // seven", "pop local\u00a03\tx", " ", "add"]
    let placed := fun diagnostic : Diagnostic =>
      (diagnostic.category, diagnostic.message, diagnostic.line)
    let quoted := fun diagnostic : Diagnostic =>
      (diagnostic.category, diagnostic.message, diagnostic.text)
    (compile "Main" .symbols lines).map (Compilation.seenBy placed) =
        .ok (none, [(.malformed, "unexpected trailing input \x27x\x27", some 3)]) ∧
      (compile "Main" .symbols respaced).map (Compilation.seenBy placed) =
        (compile "Main" .symbols lines).map (Compilation.seenBy placed) ∧
      (compile "Main" .symbols moved).map (Compilation.seenBy quoted) =
        (compile "Main" .symbols lines).map (Compilation.seenBy quoted) ∧
      ∃ compilation, compile "Main" .symbols moved = .ok compilation := by
  intro lines respaced moved placed quoted
  have short : ∀ raw ∈ moved, Command.ShortIndex (cleanLine raw) := by
    intro raw member
    have brief : ∀ raw ∈ moved, (cleanLine raw).toList.length ≤ 100 := by
      decide
    exact Command.shortIndex_of_length ((brief raw member).trans (by decide))
  obtain ⟨depends, _⟩ := compile_depends_on_tokens "Main" .symbols respaced lines
  obtain ⟨_, unplaced, settled⟩ := compile_depends_on_tokens "Main" .symbols moved lines
  refine ⟨by decide +kernel, depends (by decide +kernel), ?_, settled short⟩
  exact (unplaced (by decide +kernel)).1

end StackCompiler
