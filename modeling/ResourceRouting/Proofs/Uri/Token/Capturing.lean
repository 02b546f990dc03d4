import ResourceRouting.Proofs.Regex.Leading
import ResourceRouting.Proofs.Uri.Shape.Matching
import ResourceRouting.Proofs.Uri.Token.Reading

/-!
# What the expressions of variables match

The groups of a template are numbered as if each expression stood alone.  If every group that an
expression begins is counted there and every expression is one in parentheses, each variable gets
the text that its own expression matches.
-/

namespace ResourceRouting
namespace Uri

open Regex

namespace Token

/-- Every group that the expression of a token begins is counted when it stands alone. -/
def CountsGroups : Token → Prop
  | char _ => True
  | group text =>
      (group text).opened = ((ofText? text).map Regex.groupCount).getD 0 + 1

/-- The numbers of the groups of some tokens when the next group gets a given number. -/
def groupNumbers (next : Nat) : List Token → List Nat
  | [] => []
  | .char _ :: tokens => groupNumbers next tokens
  | .group text :: tokens => next :: groupNumbers (next + (group text).opened) tokens

/--
Some tokens are read from one place to another: characters as they are, and for each expression a
text that it matches.
-/
inductive Reads : List Token → Place → List Text → Place → Prop
  /-- Nothing is read. -/
  | nil {place : Place} : Reads [] place [] place
  /-- A character is read. -/
  | char {character : Char} {tokens : List Token} {place last : Place} {rest : Text}
      {texts : List Text}
      (ahead : place.ahead = character :: rest)
      (further : Reads tokens (place.next character rest) texts last) :
      Reads (.char character :: tokens) place texts last
  /-- A text that the expression matches is read. -/
  | group {text : Text} {regex : Regex} {tokens : List Token} {place next last : Place}
      {texts : List Text}
      (read : ofText? text = some regex)
      (led : regex.expr.Leads place next)
      (further : Reads tokens next texts last) :
      Reads (.group text :: tokens) place (place.textTo next :: texts) last

/-- The text of some tokens with texts for the expressions. -/
def weave : List Token → List Text → Text
  | [], _ => []
  | .char character :: tokens, texts => character :: weave tokens texts
  | .group _ :: tokens, [] => weave tokens []
  | .group _ :: tokens, text :: texts => text ++ weave tokens texts

/-- What is read is ahead. -/
theorem Reads.weave_append
    {tokens : List Token}
    {place last : Place}
    {texts : List Text}
    (reads : Reads tokens place texts last) :
    weave tokens texts ++ last.ahead = place.ahead := by
  induction reads with
  | nil => rfl
  | char ahead _ same =>
      rw [weave, List.cons_append, same, Place.ahead_next, ahead]
  | group read led _ same =>
      rw [weave, List.append_assoc, same, Place.textTo_append_ahead led.mem_onward]

theorem behind_append (next : Nat) (first second : List Token) :
    behind next (first ++ second) = behind (behind next first) second := by
  induction first generalizing next with
  | nil => rfl
  | cons token first ih => exact ih _

theorem le_behind (next : Nat) (tokens : List Token) : next ≤ behind next tokens := by
  induction tokens generalizing next with
  | nil => exact Nat.le_refl next
  | cons token tokens ih => exact Nat.le_trans (Nat.le_add_right ..) (ih _)

/-- The groups of a token are among those that it begins. -/
theorem CountsGroups.lt_of_mem_groups
    {token : Token}
    (counts : token.CountsGroups)
    {next index : Nat}
    (present : index ∈ (token.expr next).groups) :
    next ≤ index ∧ index < next + token.opened := by
  cases token with
  | char character => cases present
  | group text =>
      rw [counts]
      rcases List.mem_cons.mp present with rfl | inside
      · omega
      · rw [Expr.groups_shift] at inside
        obtain ⟨own, member, rfl⟩ := List.mem_map.mp inside
        have bound := Expr.groupCount_le_iff.mp (Nat.le_refl _) own member
        have same : ((ofText? text).map Regex.groupCount).getD 0 =
            (((ofText? text).map Regex.expr).getD .empty).groupCount := by
          cases ofText? text <;> rfl
        rw [same]
        omega

/-- The groups of some tokens are among those that they begin. -/
theorem lt_of_mem_groups_exprs
    {tokens : List Token}
    (counts : ∀ token ∈ tokens, token.CountsGroups)
    {next index : Nat}
    (present : index ∈ (exprs next tokens).flatMap Expr.groups) :
    next ≤ index ∧ index < behind next tokens := by
  induction tokens generalizing next with
  | nil => cases present
  | cons token tokens ih =>
      obtain ⟨first, others⟩ := List.forall_mem_cons.mp counts
      rw [exprs, List.flatMap_cons, List.mem_append] at present
      rcases present with own | later
      · have bounds := first.lt_of_mem_groups own
        exact ⟨bounds.1, Nat.lt_of_lt_of_le bounds.2 (le_behind _ tokens)⟩
      · have bounds := ih others later
        exact ⟨Nat.le_trans (Nat.le_add_right ..) bounds.1, bounds.2⟩

/-- Texts that have been noted stay noted. -/
theorem map_lookup_of_kept
    {numbers : List Nat}
    {notes earlier : Notes}
    {texts : List Text}
    (kept : ∀ index text, earlier.lookup index = some text → notes.lookup index = some text)
    (noted : numbers.map (fun index => earlier.lookup index) = texts.map some) :
    numbers.map (fun index => notes.lookup index) = texts.map some := by
  induction numbers generalizing texts with
  | nil => exact noted
  | cons index numbers ih =>
      cases texts with
      | nil => cases noted
      | cons text texts =>
          obtain ⟨first, others⟩ := List.cons.inj noted
          rw [List.map_cons, ih others, kept index text first]
          rfl

/--
Where some tokens run they are read, and the group of each expression is noted with the text that
was read for it, unless it is noted behind the tokens.
-/
theorem exists_reads_of_run
    {tokens : List Token}
    (valid : ∀ token ∈ tokens, token.IsValid)
    (counts : ∀ token ∈ tokens, token.CountsGroups)
    {next : Nat}
    {goal : Goal}
    {place : Place}
    {notes : Notes}
    (found : (exprs next tokens).foldr Expr.run goal place = some notes) :
    ∃ texts last earlier, Reads tokens place texts last ∧ goal last = some earlier ∧
      Notes.Extends ((exprs next tokens).flatMap Expr.groups) notes earlier ∧
      ((∀ index < behind next tokens, earlier.lookup index = none) →
        (groupNumbers next tokens).map (fun index => notes.lookup index) = texts.map some) := by
  induction tokens generalizing next place notes with
  | nil => exact ⟨[], place, notes, .nil, found, .refl _ _, fun _ => rfl⟩
  | cons token tokens ih =>
      obtain ⟨ownValid, othersValid⟩ := List.forall_mem_cons.mp valid
      obtain ⟨ownCounts, othersCount⟩ := List.forall_mem_cons.mp counts
      rw [exprs, List.foldr_cons] at found
      cases token with
      | char character =>
          obtain ⟨between, passed, further⟩ := Option.bind_eq_some_iff.mp found
          obtain ⟨other, rest, ahead, member, rfl⟩ := Place.pass?_eq_some_iff.mp passed
          obtain rfl : other = character := (CharSet.contains_single _ _).mp member
          obtain ⟨texts, last, earlier, reads, reached, extended, noted⟩ :=
            ih othersValid othersCount further
          exact ⟨texts, last, earlier, .char ahead reads, reached, extended, noted⟩
      | group text =>
          obtain ⟨regex, read⟩ := Option.isSome_iff_exists.mp ownValid.1
          have own : expr next (group text) = .group next (regex.expr.shift next) := by
            rw [expr, read]
            rfl
          rw [own] at found
          obtain ⟨between, middle, led, further, extended, noted⟩ :=
            (Expr.run_follows _).exists_of_group found
          rw [Expr.leads_shift] at led
          obtain ⟨texts, last, earlier, reads, reached, extendedThen, notedThen⟩ :=
            ih othersValid othersCount further
          refine ⟨place.textTo between :: texts, last, earlier, .group read led reads, reached,
            ?_, fun unnoted => ?_⟩
          · rw [exprs, List.flatMap_cons, own]
            exact (extended.mono (List.subset_append_left _ _)).trans
              (extendedThen.mono (List.subset_append_right _ _))
          · have later : next < next + (group text).opened := by
              rw [ownCounts]
              omega
            have fresh : middle.lookup next = none := by
              rw [extendedThen.others next fun present =>
                Nat.not_lt.mpr (lt_of_mem_groups_exprs othersCount present).1 later]
              exact unnoted next (Nat.lt_of_lt_of_le later (le_behind _ tokens))
            rw [groupNumbers, List.map_cons, noted fresh,
              map_lookup_of_kept extended.kept (notedThen unnoted)]
            rfl

/-- The greatest number of a group is that of the remainder. -/
theorem groupCount_wholeExpr
    {tokens : List Token}
    (counts : ∀ token ∈ tokens, token.CountsGroups)
    (next : Nat) :
    (Reader.wholeExpr (exprs next tokens ++
      [Reader.remainderExpr (behind next tokens)])).groupCount = behind next tokens := by
  have groups : (Reader.wholeExpr (exprs next tokens ++
      [Reader.remainderExpr (behind next tokens)])).groups =
        (exprs next tokens).flatMap Expr.groups ++ [behind next tokens] := by
    simp only [Reader.wholeExpr, Expr.groups, Expr.groups_concat, List.flatMap_append,
      List.flatMap_singleton, Reader.remainderExpr, Expr.char, List.nil_append, List.append_nil]
  apply Nat.le_antisymm
  · rw [Expr.groupCount_le_iff, groups, List.forall_mem_append]
    exact ⟨fun index present => Nat.le_of_lt (lt_of_mem_groups_exprs counts present).2,
      fun index last => Nat.le_of_eq (List.mem_singleton.mp last)⟩
  · refine Expr.groupCount_le_iff.mp (Nat.le_refl _) _ ?_
    rw [groups]
    exact List.mem_append_right _ (List.mem_singleton_self _)

/-- A slash that is dropped from the end of some tokens. -/
theorem dropSlash_eq_or (tokens : List Token) :
    dropSlash tokens = tokens ∨ tokens = dropSlash tokens ++ [.char '/'] := by
  unfold dropSlash
  split
  · rename_i slash
    obtain ⟨front, rfl⟩ := List.getLast?_eq_some_iff.mp slash
    exact .inr (by rw [List.dropLast_concat])
  · exact .inl rfl

theorem groupNumbers_append (next : Nat) (first second : List Token) :
    groupNumbers next (first ++ second) =
      groupNumbers next first ++ groupNumbers (behind next first) second := by
  induction first generalizing next with
  | nil => rfl
  | cons token first ih =>
      cases token with
      | char character => exact ih next
      | group text => rw [List.cons_append, groupNumbers, ih]; rfl

/-- The slash at the end of some tokens has no group. -/
theorem groupNumbers_dropSlash (next : Nat) (tokens : List Token) :
    groupNumbers next (dropSlash tokens) = groupNumbers next tokens ∧
      behind next (dropSlash tokens) = behind next tokens := by
  rcases dropSlash_eq_or tokens with same | dropped
  · rw [same]
    exact ⟨rfl, rfl⟩
  · have numbers := groupNumbers_append next (dropSlash tokens) [.char '/']
    have last := behind_append next (dropSlash tokens) [.char '/']
    rw [← dropped] at numbers last
    exact ⟨(numbers.trans (List.append_nil _)).symm, last.symm⟩

theorem groupNumbers_map_char (next : Nat) (text : Text) :
    groupNumbers next (text.map .char) = [] ∧ behind next (text.map .char) = next := by
  induction text with
  | nil => exact ⟨rfl, rfl⟩
  | cons character text ih => exact ih

end Token

namespace Part

/-- Every group that the expression of a variable begins is counted. -/
def CountsGroups : Part → Prop
  | literal _ => True
  | «variable» _ expression groups => (Token.group expression).opened = groups + 1

instance : DecidablePred CountsGroups
  | literal _ => isTrue trivial
  | «variable» _ expression groups =>
      inferInstanceAs (Decidable ((Token.group expression).opened = groups + 1))

end Part

namespace Template

/--
Every group that an expression of a template begins is counted.  Groups that are repeated no times
are not.
-/
def CountsGroups (text : Text) : Prop :=
  ∀ parts, readParts text 0 text = .ok parts → ∀ part ∈ parts, part.CountsGroups

instance (text : Text) : Decidable (CountsGroups text) :=
  match read : readParts text 0 text with
  | .error _ => isTrue (by simp [CountsGroups, read])
  | .ok parts =>
      decidable_of_iff (∀ part ∈ parts, part.CountsGroups) (by simp [CountsGroups, read])

theorem countsGroups_of_mem_tokens
    {template text : Text}
    {position : Nat}
    {parts : List Part}
    (read : readParts template position text = .ok parts)
    (counts : ∀ part ∈ parts, part.CountsGroups) :
    ∀ token ∈ parts.flatMap Part.tokens, token.CountsGroups := by
  intro token present
  obtain ⟨part, member, own⟩ := List.mem_flatMap.mp present
  cases part with
  | literal text =>
      obtain ⟨character, _, rfl⟩ := List.mem_map.mp own
      trivial
  | «variable» name expression groups =>
      obtain ⟨regex, valid, rfl⟩ := exists_regex_of_mem_readParts read member
      obtain rfl := List.mem_singleton.mp own
      have counted := counts _ member
      rw [Token.CountsGroups, valid]
      exact counted

/-- The groups of a template are those of its tokens, if every group is counted. -/
theorem partGroups_eq_groupNumbers
    {parts : List Part}
    (counts : ∀ part ∈ parts, part.CountsGroups)
    (next : Nat) :
    partGroups next parts =
      Token.groupNumbers next (parts.flatMap Part.tokens) ++
        [Token.behind next (parts.flatMap Part.tokens)] := by
  induction parts generalizing next with
  | nil => rfl
  | cons part parts ih =>
      obtain ⟨own, others⟩ := List.forall_mem_cons.mp counts
      rw [List.flatMap_cons, Token.groupNumbers_append, Token.behind_append]
      cases part with
      | literal text =>
          obtain ⟨none, same⟩ :=
            Token.groupNumbers_map_char next (Component.path.encodeLiteral text)
          rw [Part.tokens, none, same, partGroups, ih others]
          rfl
      | «variable» name expression groups =>
          have opened : next + (Token.group expression).opened = next + 1 + groups := by
            rw [own]
            omega
          have behind : Token.behind next (Part.variable name expression groups).tokens =
              next + 1 + groups := opened
          rw [behind, partGroups, ih others]
          rfl

theorem le_of_mem_partGroups
    {parts : List Part}
    {next group : Nat}
    (present : group ∈ partGroups next parts) :
    next ≤ group := by
  induction parts generalizing next with
  | nil => exact Nat.le_of_eq (List.mem_singleton.mp present).symm
  | cons part parts ih =>
      cases part with
      | literal text => exact ih present
      | «variable» name expression groups =>
          rcases List.mem_cons.mp present with rfl | later
          · exact Nat.le_refl _
          · have bound := ih later
            omega

/-- The groups of a template increase. -/
theorem pairwise_partGroups (next : Nat) (parts : List Part) :
    (partGroups next parts).Pairwise (· < ·) := by
  induction parts generalizing next with
  | nil => exact List.pairwise_singleton _ _
  | cons part parts ih =>
      cases part with
      | literal text => exact ih next
      | «variable» name expression groups =>
          refine List.pairwise_cons.mpr ⟨fun group later => ?_, ih _⟩
          have bound := le_of_mem_partGroups later
          omega

end Template

namespace Shape

/-- A remainder is all of the rest, and begins with a slash if there is one. -/
theorem eq_of_remainder?
    {text : Text}
    {remainder : Option Text}
    (allowed : remainder? text = some remainder) :
    remainder.getD [] = text ∧ ∀ rest, remainder = some rest → rest.head? = some '/' := by
  unfold remainder? at allowed
  split at allowed
  · cases allowed
    exact ⟨rfl, nofun⟩
  · split at allowed
    · cases allowed
    · cases allowed
      refine ⟨rfl, fun rest same => ?_⟩
      cases same
      rfl
  · cases allowed

end Shape

namespace Pattern

/--
What a match says of a path: each variable has a text that its own expression matches, and with
these texts the template and the remainder are the path.
-/
structure Captures (tokens : List Token) (path : Text) (texts : List Text) (found : PathMatch) :
    Prop where
  /-- The slots of the variables hold the texts. -/
  values : found.values = texts.map some
  /-- The tokens are read from the beginning of the path, the texts for the expressions. -/
  reads : ∃ last, Token.Reads tokens (.start path) texts last
  /-- The remainder begins with a slash. -/
  remainder : ∀ rest, found.remainder = some rest → rest.head? = some '/'
  /-- The tokens with the texts, and the remainder, are the path. -/
  path : Token.weave tokens texts ++ found.remainder.getD [] = path

/-- What a search for valid tokens with a remainder notes. -/
theorem exists_captures_of_search?
    {tokens : List Token}
    (valid : ∀ token ∈ tokens, token.IsValid)
    (counts : ∀ token ∈ tokens, token.CountsGroups)
    {path : Text}
    {notes : Notes}
    (found : (⟨Reader.wholeExpr (Token.exprs 1 tokens ++
      [Reader.remainderExpr (Token.behind 1 tokens)])⟩ : Regex).search? path = some notes) :
    ∃ texts, Captures tokens path texts
      (.ofList ((Token.groupNumbers 1 tokens ++ [Token.behind 1 tokens]).map
        fun group => notes.lookup group)) := by
  rw [search?_wholeExpr, List.foldr_append] at found
  obtain ⟨texts, last, earlier, reads, reached, extended, noted⟩ :=
    Token.exists_reads_of_run valid counts found
  have ended : (Reader.remainderExpr (Token.behind 1 tokens)).run atEnd last = some earlier :=
    reached
  rw [Shape.run_remainderExpr, Option.map_eq_some_iff] at ended
  obtain ⟨remainder, allowed, rfl⟩ := ended
  obtain ⟨rest, slash⟩ := Shape.eq_of_remainder? allowed
  have unnoted : ∀ index < Token.behind 1 tokens,
      (Shape.noteRemainder (Token.behind 1 tokens) remainder).lookup index = none := by
    intro index before
    exact Shape.lookup_notes_of_lt before [] remainder
  have final : notes.lookup (Token.behind 1 tokens) = remainder := by
    rw [extended.others _ fun present =>
      Nat.lt_irrefl _ (Token.lt_of_mem_groups_exprs counts present).2]
    cases remainder with
    | none => rfl
    | some rest => exact List.lookup_cons_self
  have slots : (Token.groupNumbers 1 tokens ++ [Token.behind 1 tokens]).map
      (fun group => notes.lookup group) = PathMatch.toList ⟨texts.map some, remainder⟩ := by
    rw [List.map_append, noted unnoted, List.map_singleton, final]
    rfl
  rw [slots, PathMatch.ofList_toList]
  refine ⟨texts, rfl, ⟨last, reads⟩, slash, ?_⟩
  rw [rest]
  exact reads.weave_append

/--
If the expressions of a template are expressions in parentheses as well, and count their groups,
then the groups of the template are those of its regular expression, and every match gives each
variable the text that its own expression matches.
-/
theorem captures_of_match?
    {text : Text}
    {pattern : Pattern}
    (compiled : compile text = .ok pattern)
    (nonempty : text ≠ [])
    (enclosable : Template.IsEnclosable pattern.text)
    (counts : Template.CountsGroups pattern.text) :
    ∃ parts regex,
      Template.readParts pattern.text 0 pattern.text = .ok parts ∧
        pattern.matcher = some regex ∧
        pattern.template.remainderGroup? = some regex.groupCount ∧
        pattern.template.groups.Pairwise (· < ·) ∧
        ∀ path found, pattern.match? path = some found →
          ∃ texts, texts.length = pattern.names.length ∧
            Captures (Token.dropSlash (parts.flatMap Part.tokens)) path texts found := by
  have ownCompiled : pattern.IsCompiled := ⟨text, compiled⟩
  have filled : pattern.isEmpty = false := by
    obtain ⟨rest, normal⟩ := Template.exists_normalize nonempty
    obtain ⟨parts, _, _, _, rfl⟩ := (compile_eq_ok_iff nonempty).mp compiled
    simp [isEmpty, Template.isEmpty, normal]
  obtain ⟨parts, tokens, read, template, same, tokensValid, matcher⟩ :=
    ownCompiled.exists_parts enclosable (by rintro rfl; cases filled)
  have tokensCount : ∀ token ∈ tokens, token.CountsGroups := by
    intro token present
    rw [same] at present
    exact Template.countsGroups_of_mem_tokens read (counts parts read) token
      (Token.mem_of_mem_dropSlash present)
  have groups : pattern.template.groups = Token.groupNumbers 1 tokens ++ [Token.behind 1 tokens] :=
    by
      obtain ⟨numbers, last⟩ := Token.groupNumbers_dropSlash 1 (parts.flatMap Part.tokens)
      rw [template, Template.groups_ofParts,
        Template.partGroups_eq_groupNumbers (counts parts read), ← numbers, ← last, same]
  refine ⟨parts, _, read, matcher, ?_, ?_, fun path found matched => ?_⟩
  · rw [Template.remainderGroup?, groups, List.getLast?_concat, groupCount,
      Token.groupCount_wholeExpr tokensCount]
  · rw [template, Template.groups_ofParts]
    exact Template.pairwise_partGroups 1 parts
  · have slots := ownCompiled.length_values matched
    cases path with
    | nil =>
        rw [match?, filled] at matched
        cases matched
    | cons character rest =>
        simp only [match?_cons, matcher, Option.map_eq_some_iff] at matched
        obtain ⟨notes, searched, rfl⟩ := matched
        obtain ⟨texts, captures⟩ := exists_captures_of_search? tokensValid tokensCount searched
        rw [groups] at slots ⊢
        rw [captures.values, List.length_map] at slots
        rw [← same]
        exact ⟨texts, slots, captures⟩

/-- A template with groups in its first expression. -/
def dayTemplate : Text :=
  "/log/\x7bday: ([0-9]+)-(?i:(a|B)([0-9]\x7b2\x7d)?)\x7d/\x7bname\x7d/".toList

/-- The groups inside are passed over. -/
theorem captures_of_match?_day :
    ∃ pattern parts texts,
      compile dayTemplate = .ok pattern ∧
        Template.readParts dayTemplate 0 dayTemplate = .ok parts ∧
        pattern.template.groups = [1, 5, 6] ∧
        pattern.match? "/log/3-b14/pi/x".toList =
          some ⟨[some "3-b14".toList, some "pi".toList], some "/x".toList⟩ ∧
        Captures (Token.dropSlash (parts.flatMap Part.tokens)) "/log/3-b14/pi/x".toList texts
          ⟨[some "3-b14".toList, some "pi".toList], some "/x".toList⟩ := by
  obtain ⟨pattern, compiled⟩ : ∃ pattern, compile dayTemplate = .ok pattern :=
    exists_compile (by decide +kernel)
  have own : pattern.text = dayTemplate :=
    view_eq_of_compile compiled text (by decide +kernel)
  have groups : pattern.template.groups = [1, 5, 6] :=
    view_eq_of_compile compiled (·.template.groups) (by decide +kernel)
  have matched : pattern.match? "/log/3-b14/pi/x".toList =
      some ⟨[some "3-b14".toList, some "pi".toList], some "/x".toList⟩ :=
    view_eq_of_compile compiled (·.match? "/log/3-b14/pi/x".toList) (by decide +kernel)
  have enclosable : Template.IsEnclosable pattern.text := by
    rw [own]
    decide +kernel
  have counts : Template.CountsGroups pattern.text := by
    rw [own]
    decide +kernel
  obtain ⟨parts, regex, read, _, _, _, captures⟩ :=
    captures_of_match? compiled (by decide) enclosable counts
  obtain ⟨texts, _, captured⟩ := captures _ _ matched
  rw [own] at read
  exact ⟨pattern, parts, texts, compiled, read, groups, matched, captured⟩

/-- A template whose first expression ends in a comment, which a line feed of the second ends. -/
def commentTemplate : Text := "/\x7bx: (?x)a#\x7d/\x7by: b\nc\x7d".toList

/-- A template with a group that is repeated no times. -/
def neverTemplate : Text := "/\x7bx: (b)(a)\x7b0\x7d\x7d/\x7by\x7d".toList

/--
A comment swallows the parenthesis of its variable, so that there is one group less than variables
and the remainder, and the second variable has the text of the remainder.  A group that is never
counted takes the number of the next variable, which then has no text.
-/
theorem match?_misaligned :
    ∃ comment never,
      compile commentTemplate = .ok comment ∧
        comment.template.remainderGroup? = some 3 ∧
        comment.matcher.map Regex.groupCount = some 2 ∧
        comment.match? "/ac/d".toList = some ⟨[some "ac".toList, some "/d".toList], none⟩ ∧
        compile neverTemplate = .ok never ∧
        never.template.remainderGroup? = some 4 ∧
        never.matcher.map Regex.groupCount = some 5 ∧
        never.match? "/b/q".toList = some ⟨[some "b".toList, none], some "q".toList⟩ := by
  obtain ⟨comment, first⟩ : ∃ pattern, compile commentTemplate = .ok pattern :=
    exists_compile (by decide +kernel)
  obtain ⟨never, second⟩ : ∃ pattern, compile neverTemplate = .ok pattern :=
    exists_compile (by decide +kernel)
  exact ⟨comment, never, first,
    view_eq_of_compile first (·.template.remainderGroup?) (by decide +kernel),
    view_eq_of_compile first (·.matcher.map Regex.groupCount) (by decide +kernel),
    view_eq_of_compile first (·.match? "/ac/d".toList) (by decide +kernel), second,
    view_eq_of_compile second (·.template.remainderGroup?) (by decide +kernel),
    view_eq_of_compile second (·.matcher.map Regex.groupCount) (by decide +kernel),
    view_eq_of_compile second (·.match? "/b/q".toList) (by decide +kernel)⟩

end Pattern

end Uri
end ResourceRouting
