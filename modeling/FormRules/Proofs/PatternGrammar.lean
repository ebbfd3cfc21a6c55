/-
This file gives the grammar of patterns and shows that the reader of patterns, which keeps a stack of open
groups, follows it: a text is read if and only if the whole of it is an alternation, in which every group is
closed where it was opened.
-/

import FormRules.Proofs.ClassGrammar

namespace FormRules.Pattern

open Relation (ReflTransGen)

/-- What decides how the rest of a pattern is read: whether space in it has no meaning, and the names that
groups have already. -/
structure Scope where
  verbose : Bool
  names : List (List Char)

/-- What can stand alone and is not a group. -/
inductive ReadsAtom (verbose : Bool) : List Char → Node → List Char → Prop where
  | bracket {rest opened front filled inside after} :
      OpensClass verbose rest opened front → Fills verbose opened front filled inside →
      Skips verbose inside (']' :: after) →
      ReadsAtom verbose ('[' :: rest) (.bracket filled.negated filled.content) after
  | escape {rest escape after} :
      SpellsEscape verbose rest escape after → ReadsAtom verbose ('\\' :: rest) (.ofEscape escape) after
  | dot {rest} : ReadsAtom verbose ('.' :: rest) .dot rest
  | lineStart {rest} : ReadsAtom verbose ('^' :: rest) (.assertion .lineStart) rest
  | lineEnd {rest} : ReadsAtom verbose ('$' :: rest) (.assertion .lineEnd) rest
  | literal {c rest} :
      c ∉ ['(', ')', '|', '[', '?', '*', '+', '\x7b', '\\', '.', '^', '$'] →
      ReadsAtom verbose (c :: rest) (.literal ⟨c, false⟩) rest

/-- What repeats the item before it: whether it is greedy, and the least and the largest number of
iterations. -/
inductive ReadsCounts (verbose : Bool) : List Char → Bool → Nat → Option Nat → List Char → Prop where
  | option {rest greedy after} :
      SpellsGreed rest greedy after → ReadsCounts verbose ('?' :: rest) greedy 0 (some 1) after
  | star {rest greedy after} :
      SpellsGreed rest greedy after → ReadsCounts verbose ('*' :: rest) greedy 0 none after
  | plus {rest greedy after} :
      SpellsGreed rest greedy after → ReadsCounts verbose ('+' :: rest) greedy 1 none after
  | counted {rest least most between front greedy after} :
      SpellsCounts verbose rest least most between → Skips verbose between front →
      SpellsGreed front greedy after → ReadsCounts verbose ('\x7b' :: rest) greedy least most after

/-- The front of a group after its parenthesis, and the scope inside of it. -/
inductive OpensGroup (scope : Scope) : List Char → Bool → List FlagChange → Scope → List Char → Prop where
  | capturing {text} : text.head? ≠ some '?' → OpensGroup scope text true [] scope text
  | named {rest name after} :
      -- otherwise the group would look behind
      rest.head? ≠ some '=' → rest.head? ≠ some '!' →
      SpellsName rest name after → name ∉ scope.names →
      OpensGroup scope ('?' :: '<' :: rest) true [] { scope with names := name :: scope.names } after
  | namedAfterP {rest name after} :
      SpellsName rest name after → name ∉ scope.names →
      OpensGroup scope ('?' :: 'P' :: '<' :: rest) true []
        { scope with names := name :: scope.names } after
  | flagged {word changes after} :
      NamesFlags word changes →
      OpensGroup scope ('?' :: (word ++ ':' :: after)) false changes
        { scope with verbose := verboseAfter changes scope.verbose } after

/-- Flags for the rest of the enclosing group, after the parenthesis that opens them. -/
inductive ReadsFlags : List Char → List FlagChange → List Char → Prop where
  | flags {word changes after} :
      NamesFlags word changes → changes ≠ [] → ReadsFlags ('?' :: (word ++ ')' :: after)) changes after

/-- Parts of a pattern. Lists hold what was read last first. -/
inductive Part where
  | item (node : Node)
  | items (nodes : List Node)
  | branches (nodes : List Node)

/-- `Reads scope text part later after` says that the front of the text is the given part of a pattern, where
`after` remains to be read in the scope `later`. -/
inductive Reads : Scope → List Char → Part → Scope → List Char → Prop where
  | atom {scope text front node after} :
      Skips scope.verbose text front → ReadsAtom scope.verbose front node after →
      Reads scope text (.item node) scope after
  | repetition {scope text node later between front greedy least most after} :
      Reads scope text (.item node) later between → (∀ changes, node ≠ .flags changes) →
      Skips later.verbose between front → ReadsCounts later.verbose front greedy least most after →
      Reads scope text (.item (.repetition greedy least most node)) later after
  | flags {scope text rest front changes after} :
      Skips scope.verbose text ('(' :: rest) → Skips scope.verbose rest front →
      ReadsFlags front changes after →
      Reads scope text (.item (.flags changes))
        { scope with verbose := verboseAfter changes scope.verbose } after
  | group {scope text rest front captures changes inner inside nodes later between after} :
      Skips scope.verbose text ('(' :: rest) → Skips scope.verbose rest front →
      OpensGroup scope front captures changes inner inside →
      Reads inner inside (.branches nodes) later between → Skips later.verbose between (')' :: after) →
      Reads scope text (.item (.group captures changes (.ofBranches nodes.reverse)))
        { scope with names := later.names } after
  | noItems {scope text} : Reads scope text (.items []) scope text
  | moreItems {scope text nodes later between node last after} :
      Reads scope text (.items nodes) later between → Reads later between (.item node) last after →
      Reads scope text (.items (node :: nodes)) last after
  | firstBranch {scope text nodes later after} :
      Reads scope text (.items nodes) later after →
      Reads scope text (.branches [.ofItems nodes.reverse]) later after
  | moreBranches {scope text branches later between rest nodes last after} :
      Reads scope text (.branches branches) later between → Skips later.verbose between ('|' :: rest) →
      Reads later rest (.items nodes) last after →
      Reads scope text (.branches (.ofItems nodes.reverse :: branches)) last after

/-- The whole text is one alternation that spells the written pattern. -/
def Node.Spells (node : Node) (text : List Char) : Prop :=
  ∃ nodes later after, Reads ⟨false, []⟩ text (.branches nodes) later after ∧
    Skips later.verbose after [] ∧ node = .ofBranches nodes.reverse

/-- Flags end at a colon or at a closing parenthesis. -/
theorem readFlags_stops {seen : List Flag} {clearing afterHyphen : Bool} {text : List Char}
    {changes : List FlagChange} {after : List Char}
    (read : readFlags seen clearing afterHyphen text = some (changes, after)) :
    ∃ rest, after = ':' :: rest ∨ after = ')' :: rest := by
  fun_induction readFlags seen clearing afterHyphen text generalizing changes <;>
    grind [Option.map_eq_some_iff]

/-- What reading one part of a pattern can do. -/
inductive ReadsPart (state : ReaderState) : List Char → ReaderState → List Char → Prop where
  | atom {text node after} :
      ReadsAtom state.verbose text node after → ReadsPart state text (state.push node) after
  | repetition {text greedy least most next after} :
      ReadsCounts state.verbose text greedy least most after → state.repeat? greedy least most = some next →
      ReadsPart state text next after
  | flags {rest front changes after} :
      Skips state.verbose rest front → ReadsFlags front changes after →
      ReadsPart state ('(' :: rest)
        ({ state with verbose := verboseAfter changes state.verbose }.push (.flags changes)) after
  | enter {rest front captures changes inner after} :
      Skips state.verbose rest front →
      OpensGroup ⟨state.verbose, state.names⟩ front captures changes inner after →
      ReadsPart state ('(' :: rest)
        ({ state with names := inner.names }.openGroup captures changes inner.verbose) after
  | leave {rest next} : state.closeGroup? = some next → ReadsPart state (')' :: rest) next rest
  | endBranch {rest} : ReadsPart state ('|' :: rest) state.endBranch rest

theorem repeat?_eq_some_iff {state next : ReaderState} {greedy : Bool} {least : Nat} {most : Option Nat} :
    state.repeat? greedy least most = some next ↔ ∃ item items, state.items = item :: items ∧
      (∀ changes, item ≠ .flags changes) ∧
        next = { state with items := .repetition greedy least most item :: items } := by
  unfold ReaderState.repeat?
  split <;> grind

theorem repeatFrom_eq_some_iff {state next : ReaderState} {least : Nat} {most : Option Nat}
    {text after : List Char} :
    repeatFrom state least most text = some (next, after) ↔
      ∃ greedy, SpellsGreed text greedy after ∧ state.repeat? greedy least most = some next := by
  simp only [← readGreed_eq_iff, repeatFrom, Option.map_eq_some_iff, Prod.mk.injEq]
  grind

/-- A group with a name can be opened if no group before it has that name. -/
theorem namedGroup_eq_some_iff {state next : ReaderState} {rest after : List Char} :
    (do
      let (name, after) ← readName rest
      if name ∈ state.names then none
      else
        let state := { state with names := name :: state.names }
        some (state.openGroup true [] state.verbose, after)) = some (next, after) ↔
      ∃ name, SpellsName rest name after ∧ name ∉ state.names ∧
        next = { state with names := name :: state.names }.openGroup true [] state.verbose := by
  simp only [Option.bind_eq_bind, Option.bind_eq_some_iff, Prod.exists, ← readName_eq_some_iff]
  grind

/-- What follows a question mark in a group tells flags from names and from groups that look around. -/
theorem ne_of_readFlags {c : Char} {rest : List Char} {found : List FlagChange × List Char}
    (read : readFlags [] false false (c :: rest) = some found) : c ≠ '=' ∧ c ≠ '!' ∧ c ≠ '<' ∧ c ≠ 'P' := by
  refine ⟨?_, ?_, ?_, ?_⟩ <;> rintro rfl <;> simp [readFlags, Flag.ofChar?] at read

theorem readOpenGroup_of_flags {state : ReaderState} {rest front stop : List Char} {changes : List FlagChange}
    (opening : skip state.verbose rest = '?' :: front)
    (read : readFlags [] false false front = some (changes, stop)) :
    readOpenGroup state rest =
      let verbose := verboseAfter changes state.verbose
      if stop.head? = some ')' then
        if changes.isEmpty then none
        else some ({ state with verbose := verbose }.push (.flags changes), stop.tail)
      else some (state.openGroup false changes verbose, stop.tail) := by
  cases front with
  | nil => cases read
  | cons c front =>
      obtain ⟨notEqual, notNegated, notNamed, notP⟩ := ne_of_readFlags read
      obtain ⟨remaining, rfl | rfl⟩ := readFlags_stops read <;>
        · simp only [readOpenGroup, opening]
          split <;> simp_all

theorem readOpenGroup_eq_some_iff {state next : ReaderState} {rest after : List Char} :
    readOpenGroup state rest = some (next, after) ↔
      (∃ front changes, Skips state.verbose rest front ∧ ReadsFlags front changes after ∧
        next = { state with verbose := verboseAfter changes state.verbose }.push (.flags changes)) ∨
      ∃ front captures changes inner, Skips state.verbose rest front ∧
        OpensGroup ⟨state.verbose, state.names⟩ front captures changes inner after ∧
          next = { state with names := inner.names }.openGroup captures changes inner.verbose := by
  constructor
  · intro read
    have skips : Skips state.verbose rest (skip state.verbose rest) := skip_eq_iff_skips.1 rfl
    unfold readOpenGroup at read
    generalize skip state.verbose rest = text at read skips
    simp only at read
    split at read
    -- the four fronts that look ahead or behind
    · cases read
    · cases read
    · cases read
    · cases read
    · obtain ⟨name, spells, new, rfl⟩ := namedGroup_eq_some_iff.1 read
      exact .inr ⟨_, _, _, _, skips, .namedAfterP spells new, rfl⟩
    · rename_i rest notBehind notNegated
      obtain ⟨name, spells, new, rfl⟩ := namedGroup_eq_some_iff.1 read
      refine .inr ⟨_, _, _, _, skips, .named ?_ ?_ spells new, rfl⟩
      · cases rest <;> simp_all
      · cases rest <;> simp_all
    · obtain ⟨⟨changes, _⟩, readsFlags, read⟩ := Option.bind_eq_some_iff.1 read
      obtain ⟨remaining, rfl | rfl⟩ := readFlags_stops readsFlags
      · cases read
        obtain ⟨word, rfl, names⟩ := (readFlags_eq_some_iff (.inl rfl)).1 readsFlags
        exact .inr ⟨_, _, _, _, skips, .flagged names, rfl⟩
      · simp only at read
        split at read
        · cases read
        · rename_i named
          cases read
          obtain ⟨word, rfl, names⟩ := (readFlags_eq_some_iff (.inr rfl)).1 readsFlags
          exact .inl ⟨_, _, skips, .flags names (by simpa using named), rfl⟩
    · rename_i plain
      cases read
      refine .inr ⟨_, _, _, _, skips, .capturing ?_, rfl⟩
      cases after <;> simp_all
  · intro read
    rcases read with ⟨front, changes, skips, reads, rfl⟩ | ⟨front, captures, changes, inner, skips, opens, rfl⟩
    · cases reads with
      | flags names some =>
          have readsFlags := names.read (.inr rfl) after
          simp [readOpenGroup_of_flags (skip_eq_iff_skips.2 skips) readsFlags, some]
    · cases opens with
      | capturing plain =>
          simp only [readOpenGroup, skip_eq_iff_skips.2 skips]
          split <;> simp_all
      | named notBehind notNegated spells new =>
          have opened := namedGroup_eq_some_iff.2 ⟨_, spells, new, rfl⟩
          simp only [readOpenGroup, skip_eq_iff_skips.2 skips]
          split <;> grind
      | namedAfterP spells new =>
          simp only [readOpenGroup, skip_eq_iff_skips.2 skips]
          exact namedGroup_eq_some_iff.2 ⟨_, spells, new, rfl⟩
      | flagged names =>
          have readsFlags := names.read (.inl rfl) after
          simp [readOpenGroup_of_flags (skip_eq_iff_skips.2 skips) readsFlags]

theorem readPart_eq_some_iff {state next : ReaderState} {c : Char} {rest after : List Char} :
    readPart state c rest = some (next, after) ↔ ReadsPart state (c :: rest) next after := by
  constructor
  · intro read
    unfold readPart at read
    split at read
    · rcases readOpenGroup_eq_some_iff.1 read with
        ⟨front, changes, skips, reads, rfl⟩ | ⟨front, captures, changes, inner, skips, opens, rfl⟩
      · exact .flags skips reads
      · exact .enter skips opens
    · obtain ⟨closed, leaves, shape⟩ := Option.map_eq_some_iff.1 read
      cases shape
      exact .leave leaves
    · cases read
      exact .endBranch
    · obtain ⟨found, reads, shape⟩ := Option.map_eq_some_iff.1 read
      cases shape
      obtain ⟨opened, front, filled, inside, opens, fills, closing, bracketed⟩ :=
        readClass_eq_some_iff_fills.1 reads
      rw [bracketed]
      exact .atom (.bracket opens fills closing)
    · obtain ⟨greedy, spells, repeats⟩ := repeatFrom_eq_some_iff.1 read
      exact .repetition (.option spells) repeats
    · obtain ⟨greedy, spells, repeats⟩ := repeatFrom_eq_some_iff.1 read
      exact .repetition (.star spells) repeats
    · obtain ⟨greedy, spells, repeats⟩ := repeatFrom_eq_some_iff.1 read
      exact .repetition (.plus spells) repeats
    · obtain ⟨⟨least, most, between⟩, reads, read⟩ := Option.bind_eq_some_iff.1 read
      obtain ⟨greedy, spells, repeats⟩ := repeatFrom_eq_some_iff.1 read
      have counts := readCounts_eq_some_iff.1 reads
      exact .repetition (.counted counts (skip_eq_iff_skips.1 rfl) spells) repeats
    · obtain ⟨found, reads, shape⟩ := Option.map_eq_some_iff.1 read
      cases shape
      exact .atom (.escape (readEscape_eq_some_iff.1 reads))
    · cases read
      exact .atom .dot
    · cases read
      exact .atom .lineStart
    · cases read
      exact .atom .lineEnd
    · cases read
      exact .atom (.literal (by simp_all))
  · intro reads
    cases reads with
    | atom reads =>
        cases reads with
        | bracket opens fills closing =>
            simp [readPart, readClass_eq_some_iff_fills.2 ⟨_, _, _, _, opens, fills, closing, rfl⟩]
        | escape spells => simp [readPart, readEscape_eq_some_iff.2 spells]
        | dot => rfl
        | lineStart => rfl
        | lineEnd => rfl
        | literal plain =>
            simp only [List.mem_cons, not_or] at plain
            unfold readPart
            split <;> simp_all
    | repetition reads repeats =>
        cases reads with
        | option spells => exact repeatFrom_eq_some_iff.2 ⟨_, spells, repeats⟩
        | star spells => exact repeatFrom_eq_some_iff.2 ⟨_, spells, repeats⟩
        | plus spells => exact repeatFrom_eq_some_iff.2 ⟨_, spells, repeats⟩
        | counted counts skips spells =>
            have repeated := repeatFrom_eq_some_iff.2 ⟨_, spells, repeats⟩
            simp [readPart, readCounts_eq_some_iff.2 counts, skip_eq_iff_skips.2 skips, repeated]
    | flags skips reads => exact readOpenGroup_eq_some_iff.2 (.inl ⟨_, _, skips, reads, rfl⟩)
    | enter skips opens => exact readOpenGroup_eq_some_iff.2 (.inr ⟨_, _, _, _, skips, opens, rfl⟩)
    | leave leaves => simp [readPart, leaves]
    | endBranch => rfl

/-- What was read since a group was opened: whole branches, and items of the branch after them. -/
inductive Begun (scope : Scope) (text : List Char) : List Node → List Node → Scope → List Char → Prop where
  | firstBranch {items later after} :
      Reads scope text (.items items) later after → Begun scope text [] items later after
  | laterBranch {branches items later between rest last after} :
      Reads scope text (.branches branches) later between → Skips later.verbose between ('|' :: rest) →
      Reads later rest (.items items) last after → Begun scope text branches items last after

/-- Every open group was opened where its enclosing one was left off. -/
inductive Nested (start : List Char) :
    List OpenGroup → List Node → List Node → Scope → List Char → Prop where
  | outermost {branches items scope text} :
      Begun ⟨false, []⟩ start branches items scope text → Nested start [] branches items scope text
  | inner {groups branchesOutside itemsOutside outside between rest front captures changes inside opened
        branches items scope text} :
      Nested start groups branchesOutside itemsOutside outside between →
      Skips outside.verbose between ('(' :: rest) → Skips outside.verbose rest front →
      OpensGroup outside front captures changes inside opened →
      Begun inside opened branches items scope text →
      Nested start (⟨captures, changes, outside.verbose, branchesOutside, itemsOutside⟩ :: groups) branches
        items scope text

def ReaderState.scope (state : ReaderState) : Scope :=
  ⟨state.verbose, state.names⟩

/-- The reader has come from the front of the text to where its open groups were left off. -/
def Reading.IsNested (start : List Char) (reading : Reading) : Prop :=
  Nested start reading.state.groups reading.state.branches reading.state.items reading.state.scope
    reading.text

section

variable {scope later last : Scope} {start text after rest : List Char} {groups : List OpenGroup}
  {branches items moreBranches moreItems : List Node} {reading next : Reading}

theorem Begun.ends (begun : Begun scope text branches items later after) :
    Reads scope text (.branches (.ofItems items.reverse :: branches)) later after := by
  cases begun with
  | firstBranch reads => exact .firstBranch reads
  | laterBranch before bar reads => exact .moreBranches before bar reads

/-- The last branch that was begun can be read further. -/
theorem Begun.extend (begun : Begun scope text branches items later after)
    (further : ∀ {first front}, Reads first front (.items items) later after →
      Reads first front (.items moreItems) last rest) : Begun scope text branches moreItems last rest := by
  cases begun with
  | firstBranch reads => exact .firstBranch (further reads)
  | laterBranch before bar reads => exact .laterBranch before bar (further reads)

/-- The innermost group can be read further. -/
theorem Nested.extend (nested : Nested start groups branches items scope text)
    (further : ∀ {first front}, Begun first front branches items scope text →
      Begun first front moreBranches moreItems later after) :
    Nested start groups moreBranches moreItems later after := by
  cases nested with
  | outermost begun => exact .outermost (further begun)
  | inner around opening skips opens begun => exact .inner around opening skips opens (further begun)

/-- Every part that is read belongs to the innermost open group, or opens or closes one. -/
theorem Reading.IsNested.step (nested : reading.IsNested start) (step : reading.Step next) :
    next.IsNested start := by
  obtain ⟨c, front, skipped, read⟩ := step
  have reads := readPart_eq_some_iff.1 read
  have visible := skip_eq_iff_skips.1 skipped
  obtain ⟨⟨verbose, names, branches, items, groups⟩, text⟩ := reading
  obtain ⟨state, after⟩ := next
  generalize c :: front = part at visible reads
  cases reads with
  | atom reads =>
      exact Nested.extend nested fun begun => begun.extend fun before => .moreItems before (.atom visible reads)
  | repetition reads repeats =>
      obtain ⟨item, rest, rfl, repeatable, rfl⟩ := repeat?_eq_some_iff.1 repeats
      refine Nested.extend nested fun begun => begun.extend fun itemsRead => ?_
      cases itemsRead with
      | moreItems before last => exact .moreItems before (.repetition last repeatable visible reads)
  | flags skips reads =>
      exact Nested.extend nested fun begun => begun.extend fun before =>
        .moreItems before (.flags visible skips reads)
  | enter skips opens => exact .inner nested visible skips opens (.firstBranch .noItems)
  | leave leaves =>
      cases groups with
      | nil => cases leaves
      | cons group groups =>
          cases leaves
          cases nested with
          | inner around opening skips opens begun =>
              exact around.extend fun outside => outside.extend fun before =>
                .moreItems before (.group opening skips opens begun.ends visible)
  | endBranch => exact Nested.extend nested fun begun => .laterBranch begun.ends visible .noItems

theorem Reading.IsNested.leads (nested : reading.IsNested start)
    (led : ReflTransGen Reading.Step reading next) : next.IsNested start := by
  induction led with
  | refl => exact nested
  | tail _ last inductionHypothesis => exact inductionHypothesis.step last

end

def Scope.state (scope : Scope) (branches items : List Node) (groups : List OpenGroup) : ReaderState :=
  ⟨scope.verbose, scope.names, branches, items, groups⟩

/-- What the reader holds in a scope. -/
def Scope.reading (scope : Scope) (branches items : List Node) (groups : List OpenGroup) (text : List Char) :
    Reading :=
  ⟨scope.state branches items groups, text⟩

/-- The steps by which the reader reads a part, with anything around it. -/
def Part.Leads (scope : Scope) (text : List Char) (later : Scope) (after : List Char) : Part → Prop
  | .item node => ∀ branches items groups, ReflTransGen Reading.Step
      (scope.reading branches items groups text) (later.reading branches (node :: items) groups after)
  | .items nodes => ∀ branches items groups, ReflTransGen Reading.Step
      (scope.reading branches items groups text) (later.reading branches (nodes ++ items) groups after)
  | .branches nodes => ∀ groups, ∃ branches items, nodes = .ofItems items.reverse :: branches ∧
      ReflTransGen Reading.Step (scope.reading [] [] groups text) (later.reading branches items groups after)

theorem ReadsPart.step {state next : ReaderState} {text visible after : List Char}
    (skips : Skips state.verbose text visible) (reads : ReadsPart state visible next after) :
    Reading.Step ⟨state, text⟩ ⟨next, after⟩ := by
  cases visible with
  | nil =>
      cases reads with
      | atom reads => cases reads
      | repetition reads => cases reads
  | cons c rest => exact ⟨c, rest, skip_eq_iff_skips.2 skips, readPart_eq_some_iff.2 reads⟩

/-- What the grammar allows to be read is read. -/
theorem Reads.leads {scope later : Scope} {text after : List Char} {part : Part}
    (reads : Reads scope text part later after) : part.Leads scope text later after := by
  induction reads with
  | atom visible reads =>
      intro branches items groups
      exact .single (ReadsPart.step visible (.atom reads))
  | @repetition _ _ node later _ _ greedy least most _ _ repeatable visible counts inductionHypothesis =>
      intro branches items groups
      have repeats : (later.state branches (node :: items) groups).repeat? greedy least most =
          some (later.state branches (.repetition greedy least most node :: items) groups) :=
        repeat?_eq_some_iff.2 ⟨node, items, rfl, repeatable, rfl⟩
      have repeated := ReadsPart.step visible (.repetition counts repeats)
      exact (inductionHypothesis branches items groups).tail repeated
  | flags opening skips reads =>
      intro branches items groups
      exact .single (ReadsPart.step opening (.flags skips reads))
  | @group scope text _ _ captures changes inner inside _ later between after opening skips opens _ closing
      inductionHypothesis =>
      intro branches items groups
      let group : OpenGroup := ⟨captures, changes, scope.verbose, branches, items⟩
      obtain ⟨branchesInside, itemsInside, rfl, led⟩ := inductionHypothesis (group :: groups)
      have entered : Reading.Step (scope.reading branches items groups text)
          (inner.reading [] [] (group :: groups) inside) := ReadsPart.step opening (.enter skips opens)
      exact (ReflTransGen.head entered led).tail (ReadsPart.step closing (.leave rfl))
  | noItems =>
      intro branches items groups
      exact .refl
  | moreItems _ _ before last =>
      intro branches items groups
      exact (before branches items groups).trans (last branches _ groups)
  | firstBranch _ inductionHypothesis =>
      intro groups
      exact ⟨[], _, rfl, by simpa using inductionHypothesis [] [] groups⟩
  | @moreBranches _ _ _ later between rest nodes _ _ _ bar _ before last =>
      intro groups
      obtain ⟨branches, items, rfl, led⟩ := before groups
      have ended : Reading.Step (later.reading branches items groups between)
          (later.reading (.ofItems items.reverse :: branches) [] groups rest) := ReadsPart.step bar .endBranch
      exact ⟨_, nodes, rfl, (led.tail ended).trans (by simpa using last _ [] groups)⟩

end FormRules.Pattern
