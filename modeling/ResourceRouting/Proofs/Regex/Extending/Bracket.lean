import ResourceRouting.Proofs.Regex.Extending.Escape

/-!
# Bracketed classes with a parenthesis behind

A class ends with its own bracket, so that it is the same whatever follows.  No name of an ASCII
class reaches behind the end of the text, as a parenthesis does not stand in such a name.
-/

namespace ResourceRouting
namespace Regex

namespace Bracket

variable {flags : Flags} {text after : Text}

theorem readHyphens_append
    {items : Items}
    (left : (readHyphens flags items text).2 ≠ [])
    (others : Text) :
    readHyphens flags items (text ++ ')' :: others) =
      ((readHyphens flags items text).1, (readHyphens flags items text).2 ++ ')' :: others) := by
  fun_induction readHyphens flags items text with
  | case1 items rest ih =>
      have skipped : flags.skip rest ≠ [] := by
        intro ended
        rw [ended] at left
        simp [readHyphens] at left
      rw [List.cons_append, readHyphens, Flags.skip_append skipped, ih left]
  | case2 items text bare =>
      rw [readHyphens]
      exact Text.append_ne_cons bare (by decide) others

theorem readNegation_append
    (left : (readNegation flags text).2 ≠ [])
    (others : Text) :
    readNegation flags (text ++ ')' :: others) =
      ((readNegation flags text).1, (readNegation flags text).2 ++ ')' :: others) := by
  fun_cases readNegation flags text with
  | case1 rest =>
      rw [List.cons_append, readNegation, Flags.skip_append left]
  | case2 text bare =>
      rw [readNegation]
      exact Text.append_ne_cons bare (by decide) others

theorem openBracket_append
    {negated : Bool}
    {items : Items}
    (found : openBracket flags text = some (negated, items, after))
    (others : Text) :
    openBracket flags (text ++ ')' :: others) = some (negated, items, after ++ ')' :: others) := by
  dsimp only [openBracket] at found
  have hyphens : (readHyphens flags .none (readNegation flags (flags.skip text)).2).2 ≠ [] := by
    intro ended
    rw [ended] at found
    cases found
  have negation : (readNegation flags (flags.skip text)).2 ≠ [] := by
    intro ended
    rw [ended] at hyphens
    simp [readHyphens] at hyphens
  have skipped : flags.skip text ≠ [] := by
    intro ended
    rw [ended] at negation
    simp [readNegation] at negation
  dsimp only [openBracket]
  rw [Flags.skip_append skipped, readNegation_append negation]
  dsimp only
  rw [readHyphens_append hyphens]
  dsimp only
  generalize (readHyphens flags .none (readNegation flags (flags.skip text)).2).1 = begun at *
  generalize (readHyphens flags .none (readNegation flags (flags.skip text)).2).2 = rest at *
  split at found
  · cases found
  · rename_i behind first
    split at found
    · cases found
    · rename_i unended
      cases found
      simp only [List.cons_append, first, Flags.skip_append unended others]
      split
      · rename_i ended
        exact absurd ended (by simp)
      · rfl
  · rename_i filled bare
    cases found
    split
    · rename_i ended
      exact absurd ended (by simp)
    · rename_i first begins
      exact absurd begins (Text.append_ne_cons (fun rest => bare rest first) (by decide) _ _)
    · rfl

/-- Reads the circumflex of an ASCII class. -/
def readCircumflex : Text → Bool × Text
  | '^' :: rest => (true, rest)
  | text => (false, text)

theorem readCircumflex_append (text others : Text) :
    readCircumflex (text ++ ')' :: others) =
      ((readCircumflex text).1, (readCircumflex text).2 ++ ')' :: others) := by
  fun_cases readCircumflex text with
  | case1 rest => rfl
  | case2 text bare =>
      rw [readCircumflex]
      exact Text.append_ne_cons bare (by decide) others

/-- The ASCII class of a name up to a colon, if a bracket follows. -/
def classOfCut (flags : Flags) (negated : Bool) : Option (Text × Text) → Option (CharSet × Text)
  | some (name, ']' :: after) =>
      (CharSet.asciiClass? (String.ofList name)).map fun set =>
        (flags.classSet negated set, after)
  | _ => none

theorem readAsciiClass_colon (flags : Flags) (rest : Text) :
    readAsciiClass flags (':' :: rest) =
      classOfCut flags (readCircumflex rest).1 (Text.cut ':' (readCircumflex rest).2) := by
  have circumflex : readCircumflex rest =
      match rest with
      | '^' :: more => (true, more)
      | _ => (false, rest) := by
    unfold readCircumflex
    split <;> rfl
  rw [circumflex]
  rfl

theorem not_mem_of_asciiClass? {name : Text} {set : CharSet}
    (known : CharSet.asciiClass? (String.ofList name) = some set) :
    ')' ∉ name := by
  unfold CharSet.asciiClass? at known
  split at known
  case h_15 => cases known
  all_goals
    rename_i spelled
    rw [← String.toList_ofList (l := name), spelled]
    decide

theorem readAsciiClass_of_bare (bare : ∀ rest, text ≠ ':' :: rest) :
    readAsciiClass flags text = none := by
  unfold readAsciiClass
  split
  · exact absurd rfl (bare _)
  · rfl

/-- A class whose name would reach behind a parenthesis does not exist. -/
theorem classOfCut_of_mem
    {negated : Bool}
    {name : Text}
    (parenthesis : ')' ∈ name) :
    classOfCut flags negated (some (name, after)) = none := by
  have unknown : CharSet.asciiClass? (String.ofList name) = none := by
    cases known : CharSet.asciiClass? (String.ofList name) with
    | none => rfl
    | some set => exact absurd parenthesis (not_mem_of_asciiClass? known)
  unfold classOfCut
  split
  · rename_i equal
    cases equal
    rw [unknown, Option.map_none]
  · rfl

theorem classOfCut_append
    {negated : Bool}
    {name : Text}
    (others : Text) :
    classOfCut flags negated (some (name, after ++ ')' :: others)) =
      (classOfCut flags negated (some (name, after))).map fun (set, after) =>
        (set, after ++ ')' :: others) := by
  by_cases bracket : ∃ rest, after = ']' :: rest
  · obtain ⟨rest, rfl⟩ := bracket
    rw [List.cons_append, classOfCut, classOfCut, Option.map_map]
    rfl
  · have bare := not_exists.mp bracket
    have longer := Text.append_ne_cons bare (by decide : ')' ≠ ']') others
    rw [classOfCut, classOfCut, Option.map_none]
    · exact fun _ _ equal => bare _ (Prod.mk.inj (Option.some.inj equal)).2
    · exact fun _ _ equal => longer _ (Prod.mk.inj (Option.some.inj equal)).2

/-- An ASCII class in a text is the same when more follows, and no other one comes up. -/
theorem readAsciiClass_append (flags : Flags) (text others : Text) :
    readAsciiClass flags (text ++ ')' :: others) =
      (readAsciiClass flags text).map fun (set, after) => (set, after ++ ')' :: others) := by
  by_cases colon : ∃ rest, text = ':' :: rest
  · obtain ⟨rest, rfl⟩ := colon
    rw [List.cons_append, readAsciiClass_colon, readAsciiClass_colon, readCircumflex_append]
    dsimp only
    cases parted : Text.cut ':' (readCircumflex rest).2 with
    | some found => rw [Text.cut_append parted, classOfCut_append]
    | none =>
        cases further : Text.cut ':' ((readCircumflex rest).2 ++ ')' :: others) with
        | none => rfl
        | some found =>
            obtain ⟨name, after⟩ := found
            obtain ⟨more, rfl, behind⟩ := Text.append_of_cut_eq_none parted further
            obtain ⟨⟨before, _⟩, _, equal⟩ := Option.map_eq_some_iff.mp behind
            cases equal
            rw [classOfCut_of_mem (List.mem_append_right _ (List.mem_cons_self ..))]
            rfl
  · have bare := not_exists.mp colon
    rw [readAsciiClass_of_bare bare,
      readAsciiClass_of_bare (Text.append_ne_cons bare (by decide) others), Option.map_none]

theorem readItem_extends
    {item : Escape}
    (found : readItem flags text = some (item, after)) :
    Extends (readItem flags) text item after := by
  unfold readItem at found
  split at found
  · cases found
  · exact (Escape.read_extends found).prepend fun _ => rfl
  · rename_i ordinary
    cases found
    exact .kept fun others => by rw [List.cons_append, readItem]; exact ordinary

/-- The set of a range, when both ends are characters in order. -/
def rangeSet? (flags : Flags) : Escape → Escape → Option CharSet
  | .literal low _, .literal high _ =>
      if low ≤ high && admits flags low && admits flags high then some (.range low high) else none
  | _, _ => none

/-- Reads what follows a hyphen: the end of a range, or no more of it. -/
def rangeBehind (flags : Flags) (first : Escape) (more : Text) :
    Text → Option (CharSet × Text)
  | [] => none
  | ']' :: _ => (itemSet? flags first).map (·, '-' :: more)
  | '-' :: _ => (itemSet? flags first).map (·, '-' :: more)
  | start =>
      (readItem flags start).bind fun (second, after) =>
        (rangeSet? flags first second).map (·, after)

/-- Reads what follows an item, which a hyphen makes the beginning of a range. -/
def rangeFrom (flags : Flags) (first : Escape) : Text → Option (CharSet × Text)
  | [] => none
  | '-' :: more => rangeBehind flags first more (flags.skip more)
  | after => (itemSet? flags first).map (·, after)

theorem readRange_eq (flags : Flags) (text : Text) :
    readRange flags text =
      (readItem flags text).bind fun (first, rest) => rangeFrom flags first (flags.skip rest) := by
  have ranges : ∀ (first : Escape) (start : Text),
      ((readItem flags start).bind fun (second, after) =>
          (rangeSet? flags first second).map (·, after)) =
        (readItem flags start).bind fun (second, after) =>
          match first, second with
          | .literal low _, .literal high _ =>
              if low ≤ high && admits flags low && admits flags high then
                some (.range low high, after)
              else
                none
          | _, _ => none := by
    intro first start
    congr 1
    funext ⟨second, after⟩
    unfold rangeSet?
    dsimp only
    split
    · split <;> rfl
    · rfl
  simp only [readRange, rangeFrom, rangeBehind, ranges]
  rfl

theorem single_append
    {item : Escape}
    {set : CharSet}
    (found : (itemSet? flags item).map (·, text) = some (set, after))
    (others : Text) :
    (itemSet? flags item).map (·, text ++ ')' :: others) = some (set, after ++ ')' :: others) := by
  obtain ⟨members, known, equal⟩ := Option.map_eq_some_iff.mp found
  cases equal
  rw [known, Option.map_some]

theorem rangeBehind_append
    {first : Escape}
    {set : CharSet}
    {more start : Text}
    (found : rangeBehind flags first more start = some (set, after))
    (left : after ≠ [])
    (others : Text) :
    rangeBehind flags first (more ++ ')' :: others) (start ++ ')' :: others) =
      some (set, after ++ ')' :: others) := by
  fun_cases rangeBehind flags first more start with
  | case1 => cases found
  | case2 rest => exact single_append found others
  | case3 rest => exact single_append found others
  | case4 start filled bracket hyphen =>
      rw [rangeBehind] at found <;> try assumption
      obtain ⟨⟨second, behind⟩, item, range⟩ := Option.bind_eq_some_iff.mp found
      obtain ⟨members, known, equal⟩ := Option.map_eq_some_iff.mp range
      cases equal
      rw [rangeBehind, (readItem_extends item).leaves left, Option.bind_some]
      · simp only [known, Option.map_some]
      · simp
      · exact Text.append_ne_cons bracket (by decide) others
      · exact Text.append_ne_cons hyphen (by decide) others

theorem rangeFrom_append
    {first : Escape}
    {set : CharSet}
    (found : rangeFrom flags first text = some (set, after))
    (left : after ≠ [])
    (others : Text) :
    rangeFrom flags first (text ++ ')' :: others) = some (set, after ++ ')' :: others) := by
  fun_cases rangeFrom flags first text with
  | case1 => cases found
  | case2 more =>
      have skipped : flags.skip more ≠ [] := by
        intro ended
        rw [rangeFrom, ended] at found
        cases found
      rw [List.cons_append, rangeFrom, Flags.skip_append skipped]
      exact rangeBehind_append found left others
  | case3 text filled hyphen =>
      rw [rangeFrom] at found <;> try assumption
      rw [rangeFrom]
      · exact single_append found others
      · simp
      · exact Text.append_ne_cons hyphen (by decide) others

theorem readRange_append
    {set : CharSet}
    (found : readRange flags text = some (set, after))
    (left : after ≠ [])
    (others : Text) :
    readRange flags (text ++ ')' :: others) = some (set, after ++ ')' :: others) := by
  rw [readRange_eq] at found ⊢
  obtain ⟨⟨first, rest⟩, item, range⟩ := Option.bind_eq_some_iff.mp found
  have skipped : flags.skip rest ≠ [] := by
    intro ended
    dsimp only at range
    rw [ended] at range
    cases range
  have filled : rest ≠ [] := by
    rintro rfl
    exact skipped (List.eq_nil_of_length_eq_zero (Nat.le_zero.mp (flags.length_skip [])))
  rw [(readItem_extends item).leaves filled, Option.bind_some]
  dsimp only
  rw [Flags.skip_append skipped, rangeFrom_append range left]

/-- The outcome of a step with more text behind. -/
def Outcome.extend (others : Text) : Outcome → Outcome
  | more state rest => more state (rest ++ ')' :: others)
  | done part rest => done part (rest ++ ')' :: others)

theorem closeBracket_append
    {state : State}
    {rest : Text}
    {outcome : Outcome}
    (found : closeBracket flags state rest = some outcome)
    (others : Text) :
    closeBracket flags state (rest ++ ')' :: others) = some (outcome.extend others) := by
  unfold closeBracket at found ⊢
  dsimp only at found ⊢
  split at found
  · obtain ⟨set, known, equal⟩ := Option.map_eq_some_iff.mp found
    rw [← equal, known, Option.map_some]
    split <;> rfl
  · cases found

/-- A step that leaves some text, or ends the class, is the same when more follows. -/
theorem step_append
    {state : State}
    {outcome : Outcome}
    (found : step flags state text = some outcome)
    (left : ∀ next, outcome ≠ .more next [])
    (others : Text) :
    step flags state (text ++ ')' :: others) = some (outcome.extend others) := by
  fun_cases step flags state text with
  | case1 => cases found
  | case2 rest set after named =>
      have longer := readAsciiClass_append flags rest others
      rw [named, Option.map_some] at longer
      rw [step, named] at found
      obtain ⟨admitted, known, equal⟩ := Option.map_eq_some_iff.mp found
      cases equal
      rw [List.cons_append, step, longer]
      dsimp only
      rw [known, Option.map_some]
      rfl
  | case3 rest unnamed =>
      have longer := readAsciiClass_append flags rest others
      rw [unnamed, Option.map_none] at longer
      rw [step, unnamed] at found
      obtain ⟨⟨negated, items, after⟩, opened, equal⟩ := Option.map_eq_some_iff.mp found
      cases equal
      rw [List.cons_append, step, longer]
      dsimp only
      rw [openBracket_append opened, Option.map_some]
      rfl
  | case4 rest => exact closeBracket_append found others
  | case5 rest =>
      cases found
      rfl
  | case6 rest =>
      cases found
      rfl
  | case7 rest =>
      cases found
      rfl
  | case8 text filled opening closing inter diff symmDiff =>
      rw [step] at found <;> try assumption
      obtain ⟨⟨set, after⟩, range, equal⟩ := Option.map_eq_some_iff.mp found
      cases equal
      have further := readRange_append range (fun ended => left _ (by rw [ended])) others
      rw [step]
      · rw [further, Option.map_some]
        rfl
      · simp
      · exact Text.append_ne_cons opening (by decide) others
      · exact Text.append_ne_cons closing (by decide) others
      · exact @Text.append_ne_append _ ['&', '&'] _ inter (by decide) others
      · exact @Text.append_ne_append _ ['-', '-'] _ diff (by decide) others
      · exact @Text.append_ne_append _ ['~', '~'] _ symmDiff (by decide) others

/-- The rest of a class is the same when more follows. -/
theorem readRest_append
    {state : State}
    {part : Part}
    (found : readRest flags state text = some (part, after))
    (others : Text) :
    readRest flags state (text ++ ')' :: others) = some (part, after ++ ')' :: others) := by
  have skipped : ∀ {state : State} {text : Text} {outcome : Outcome},
      step flags state (flags.skip text) = some outcome → flags.skip text ≠ [] := by
    intro state text outcome taken ended
    rw [ended] at taken
    cases taken
  fun_induction readRest flags state text with
  | case1 => cases found
  | case2 state text part rest taken =>
      cases found
      apply readRest_of_done
      rw [Flags.skip_append (skipped taken), step_append taken (by rintro _ ⟨⟩)]
      rfl
  | case3 state text next rest taken ih =>
      have left : rest ≠ [] := by
        rintro rfl
        exact absurd (length_readRest found) (Nat.not_lt_zero _)
      have further : step flags state (flags.skip (text ++ ')' :: others)) =
          some (.more next (rest ++ ')' :: others)) := by
        rw [Flags.skip_append (skipped taken), step_append taken (by rintro _ ⟨⟩; exact left rfl)]
        rfl
      rw [readRest_of_more further, ih found]

theorem read_append
    {part : Part}
    (found : read flags text = some (part, after))
    (others : Text) :
    read flags (text ++ ')' :: others) = some (part, after ++ ')' :: others) := by
  obtain ⟨⟨negated, items, behind⟩, opened, found⟩ := Option.bind_eq_some_iff.mp found
  simp only [read, openBracket_append opened, Option.bind_eq_bind, Option.bind_some,
    readRest_append found]

end Bracket

end Regex
end ResourceRouting
