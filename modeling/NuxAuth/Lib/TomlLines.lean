import Mathlib.Data.List.Flatten
import Mathlib.Data.List.Perm.Basic

/-!
# The lines of a TOML document

A document is a list of lines; a value written over several lines is one line
here.  Its blocks are its headers and its top-level keys, each with the comment
and blank lines above it, and a header with all lines down to its last key.

Where the blocks of some keys are replaced by blocks without comments, the lines
that belong to none of these keys are kept exactly if no comment stands above a
replaced block and no table below one of the keys has a header of its own.
-/

namespace NuxAuth.Lib.TomlLines

/-- A line with its text; `path` is the dotted key of a header or of a value. -/
inductive TomlLine where
  | blank (text : String)
  | comment (text : String)
  | header (path : List String) (text : String)
  | keyValue (path : List String) (text : String)
deriving DecidableEq

namespace TomlLine

/-- The line as it is written. -/
def text : TomlLine → String
  | .blank text => text
  | .comment text => text
  | .header _ text => text
  | .keyValue _ text => text

/-- Nothing stands in the line. -/
def isBlank : TomlLine → Bool
  | .blank _ => true
  | _ => false

/-- Only a comment stands in the line. -/
def isComment : TomlLine → Bool
  | .comment _ => true
  | _ => false

/-- A key is assigned in the line. -/
def isKeyValue : TomlLine → Bool
  | .keyValue _ _ => true
  | _ => false

end TomlLine

/-- A header or a root key, what stands above it, and the keys below. -/
structure TomlBlock where
  above : List TomlLine
  first : TomlLine
  /-- down to the last key -/
  body : List TomlLine
deriving DecidableEq

/-- A document, cut at its headers and root keys. -/
structure TomlLayout where
  blocks : List TomlBlock
  trailing : List TomlLine
deriving DecidableEq

/-- The lines of a block, in order. -/
def TomlBlock.lines (block : TomlBlock) : List TomlLine :=
  block.above ++ block.first :: block.body

/-- The lines of a document, in order. -/
def TomlLayout.lines (layout : TomlLayout) : List TomlLine :=
  layout.blocks.flatMap TomlBlock.lines ++ layout.trailing

/-- A block in front of the others. -/
def TomlLayout.cons (block : TomlBlock) (layout : TomlLayout) : TomlLayout :=
  ⟨block :: layout.blocks, layout.trailing⟩

/-! ## The blocks of a document -/

/-- From a header on; `pending` is what follows the last key so far. -/
def groupTable (above : List TomlLine) (first : TomlLine)
    (body pending : List TomlLine) : List TomlLine → TomlLayout
  | [] => ⟨[⟨above, first, body⟩], pending⟩
  | .keyValue path text :: rest =>
      groupTable above first (body ++ pending ++ [.keyValue path text]) [] rest
  | .header path text :: rest =>
      (groupTable pending (.header path text) [] [] rest).cons
        ⟨above, first, body⟩
  | .blank text :: rest =>
      groupTable above first body (pending ++ [.blank text]) rest
  | .comment text :: rest =>
      groupTable above first body (pending ++ [.comment text]) rest

/-- Before the first header. -/
def groupRoot (above : List TomlLine) : List TomlLine → TomlLayout
  | [] => ⟨[], above⟩
  | .keyValue path text :: rest =>
      (groupRoot [] rest).cons ⟨above, .keyValue path text, []⟩
  | .header path text :: rest =>
      groupTable above (.header path text) [] [] rest
  | .blank text :: rest => groupRoot (above ++ [.blank text]) rest
  | .comment text :: rest => groupRoot (above ++ [.comment text]) rest

/-- The lines of a document, grouped. -/
def group (lines : List TomlLine) : TomlLayout :=
  groupRoot [] lines

/-- Only blank lines and comments. -/
def Trivia (lines : List TomlLine) : Prop :=
  ∀ line ∈ lines, line.isBlank = true ∨ line.isComment = true

theorem Trivia.snoc {lines : List TomlLine} {line : TomlLine}
    (trivia : Trivia lines)
    (kind : line.isBlank = true ∨ line.isComment = true) :
    Trivia (lines ++ [line]) := by
  intro inner member
  rcases List.mem_append.mp member with front | last
  · exact trivia inner front
  · rw [List.mem_singleton.mp last]
    exact kind

theorem trivia_groupTable (lines : List TomlLine) {above : List TomlLine}
    (first : TomlLine) (body : List TomlLine) {pending : List TomlLine}
    (upper : Trivia above) (left : Trivia pending) :
    ∀ block ∈ (groupTable above first body pending lines).blocks,
      Trivia block.above := by
  induction lines generalizing above first body pending with
  | nil =>
      intro block member
      rw [List.mem_singleton.mp member]
      exact upper
  | cons line rest induction =>
      cases line with
      | keyValue path text => exact induction first _ upper (by simp [Trivia])
      | header path text =>
          intro block member
          rcases List.mem_cons.mp member with rfl | later
          · exact upper
          · exact induction _ [] left (by simp [Trivia]) block later
      | blank text => exact induction first body upper (left.snoc (.inl rfl))
      | comment text => exact induction first body upper (left.snoc (.inr rfl))

theorem trivia_groupRoot (lines : List TomlLine) {above : List TomlLine}
    (upper : Trivia above) :
    ∀ block ∈ (groupRoot above lines).blocks, Trivia block.above := by
  induction lines generalizing above with
  | nil =>
      intro block member
      cases member
  | cons line rest induction =>
      cases line with
      | keyValue path text =>
          intro block member
          rcases List.mem_cons.mp member with rfl | later
          · exact upper
          · exact induction (by simp [Trivia]) block later
      | header path text =>
          exact trivia_groupTable rest _ [] upper (by simp [Trivia])
      | blank text => exact induction (upper.snoc (.inl rfl))
      | comment text => exact induction (upper.snoc (.inr rfl))

theorem trivia_group (lines : List TomlLine) :
    ∀ block ∈ (group lines).blocks, Trivia block.above :=
  trivia_groupRoot lines (by simp [Trivia])

/-! ## The lines that belong to none of some keys -/

section Keys

variable (keys : List String)

/-- The block writes one of the keys, or something below it. -/
def TomlBlock.isUnder (block : TomlBlock) : Bool :=
  match block.first with
  | .header (key :: _) _ => key ∈ keys
  | .keyValue (key :: _) _ => key ∈ keys
  | _ => false

/-- The block is a table of one of the keys, not a table below it. -/
def TomlBlock.isOwn (block : TomlBlock) : Bool :=
  match block.first with
  | .header [key] _ => key ∈ keys
  | .keyValue (key :: _) _ => key ∈ keys
  | _ => false

/-- What is neither the header nor a key of one of the keys, nor a comment
between them. -/
def TomlBlock.foreign (block : TomlBlock) : List TomlLine :=
  if block.isOwn keys then
    block.above ++ block.body.filter TomlLine.isBlank
  else
    block.lines

/-- What a document holds beside the headers and keys of these tables. -/
def TomlLayout.foreign (layout : TomlLayout) : List TomlLine :=
  layout.blocks.flatMap (TomlBlock.foreign keys) ++ layout.trailing

variable {keys}

theorem TomlBlock.isUnder_of_isOwn {block : TomlBlock}
    (own : block.isOwn keys = true) : block.isUnder keys = true := by
  rcases block with ⟨above, first, body⟩
  rcases first with text | text | ⟨path, text⟩ | ⟨path, text⟩
  · cases own
  · cases own
  · rcases path with _ | ⟨key, _ | ⟨second, rest⟩⟩
    · cases own
    · exact own
    · cases own
  · cases path with
    | nil => cases own
    | cons key rest => exact own

theorem TomlBlock.foreign_eq_lines {block : TomlBlock}
    (apart : block.isUnder keys = false) : block.foreign keys = block.lines := by
  refine if_neg fun own => ?_
  rw [isUnder_of_isOwn own] at apart
  cases apart

/-! ## Replacing blocks -/

/-- A block without a comment. -/
structure TomlBlock.Fresh (block : TomlBlock) : Prop where
  above : ∀ line ∈ block.above, line.isBlank = true
  first : ∃ key text, block.first = .header [key] text
  body : ∀ line ∈ block.body, line.isKeyValue = true

variable (keys) in
/-- The blocks under the keys are new ones, and nothing else is different. -/
structure Replaces (before after : TomlLayout) : Prop where
  others : after.blocks.filter (fun block => !block.isUnder keys) =
    before.blocks.filter fun block => !block.isUnder keys
  trailing : after.trailing = before.trailing
  fresh : ∀ block ∈ after.blocks, block.isUnder keys = true → block.Fresh

theorem isUnder_append (first second : List String) (block : TomlBlock) :
    block.isUnder (first ++ second) =
      (block.isUnder first || block.isUnder second) := by
  rcases block with ⟨above, line, body⟩
  rcases line with text | text | ⟨path, text⟩ | ⟨path, text⟩
  · rfl
  · rfl
  · cases path with
    | nil => rfl
    | cons key rest => simp [TomlBlock.isUnder]
  · cases path with
    | nil => rfl
    | cons key rest => simp [TomlBlock.isUnder]

theorem filter_isUnder_append (first second : List String)
    (blocks : List TomlBlock) :
    blocks.filter (fun block => !block.isUnder (first ++ second)) =
      (blocks.filter fun block => !block.isUnder second).filter
        fun block => !block.isUnder first := by
  rw [List.filter_filter]
  refine List.filter_congr fun block _ => ?_
  rw [isUnder_append, Bool.not_or]

/-- Two assignments, one after the other. -/
theorem Replaces.append {first second : List String}
    {before middle after : TomlLayout}
    (earlier : Replaces first before middle)
    (later : Replaces second middle after) :
    Replaces (first ++ second) before after where
  others := by
    rw [filter_isUnder_append, filter_isUnder_append, later.others,
      List.filter_comm, earlier.others, List.filter_comm]
  trailing := later.trailing.trans earlier.trailing
  fresh := by
    intro block member under
    cases again : block.isUnder second with
    | true => exact later.fresh block member again
    | false =>
        rw [isUnder_append, again, Bool.or_false] at under
        have kept : block ∈
            after.blocks.filter fun block => !block.isUnder second :=
          List.mem_filter.mpr ⟨member, by rw [again]; rfl⟩
        rw [later.others] at kept
        exact earlier.fresh block (List.mem_filter.mp kept).1 under

/-! ## What is kept -/

variable {before after : TomlLayout}

/-- The blocks that give nothing can be left out. -/
theorem flatMap_eq_filter {Item Value : Type} {items : List Item}
    {give : Item → List Value} {keep : Item → Bool}
    (empty : ∀ item ∈ items, keep item = false → give item = []) :
    items.flatMap give = (items.filter keep).flatMap give := by
  induction items with
  | nil => rfl
  | cons item rest induction =>
      have others := induction fun inner member =>
        empty inner (List.mem_cons_of_mem _ member)
      rw [List.flatMap_cons, others]
      cases kept : keep item with
      | false =>
          rw [empty item List.mem_cons_self kept, List.nil_append,
            List.filter_cons_of_neg (by rw [kept]; exact Bool.false_ne_true)]
      | true => rw [List.filter_cons_of_pos kept, List.flatMap_cons]

/-- The lines of the other blocks stay in order. -/
theorem Replaces.others_sublist (replaces : Replaces keys before after) :
    ((before.blocks.filter fun block => !block.isUnder keys).flatMap
        TomlBlock.lines ++ before.trailing).Sublist after.lines := by
  rw [← replaces.others, ← replaces.trailing]
  exact List.Sublist.append
    (List.Sublist.flatMap List.filter_sublist TomlBlock.lines)
    (List.Sublist.refl _)

/-- Lines of one kind are kept where the replaced blocks have none of them. -/
theorem Replaces.keeps (replaces : Replaces keys before after)
    {kind : TomlLine → Bool}
    (none : ∀ block ∈ before.blocks, block.isUnder keys = true →
      ∀ line ∈ block.foreign keys, kind line = false) :
    ((before.foreign keys).filter kind).Sublist after.lines := by
  have left : ∀ block ∈ before.blocks, (!block.isUnder keys) = false →
      (block.foreign keys).filter kind = [] := by
    intro block member under
    rw [Bool.not_eq_false'] at under
    apply List.filter_eq_nil_iff.mpr
    intro line inside
    rw [none block member under line inside]
    exact Bool.false_ne_true
  have same : (before.foreign keys).filter kind =
      ((before.blocks.filter fun block => !block.isUnder keys).flatMap
        TomlBlock.lines ++ before.trailing).filter kind := by
    rw [TomlLayout.foreign, List.filter_append, List.filter_append,
      List.filter_flatMap, List.filter_flatMap, flatMap_eq_filter left]
    refine congrArg (· ++ _) (List.flatMap_congr fun block member => ?_)
    have apart := (List.mem_filter.mp member).2
    rw [Bool.not_eq_true'] at apart
    rw [block.foreign_eq_lines apart]
  rw [same]
  exact List.filter_sublist.trans replaces.others_sublist

/-! ## What is lost -/

variable (keys) in
/-- A comment, or the header of a table below one of the keys. -/
def TomlLine.isMark : TomlLine → Bool
  | .comment _ => true
  | .header (key :: _ :: _) _ => key ∈ keys
  | _ => false

theorem TomlBlock.Fresh.no_mark {block : TomlBlock} (fresh : block.Fresh) :
    ∀ line ∈ block.lines, line.isMark keys = false := by
  intro line member
  rcases List.mem_append.mp member with upper | member
  · have blank := fresh.above line upper
    cases line with
    | blank text => rfl
    | _ => cases blank
  · rcases List.mem_cons.mp member with rfl | inside
    · rcases fresh.first with ⟨key, text, same⟩
      rw [same]
      rfl
    · have value := fresh.body line inside
      cases line with
      | keyValue path text => rfl
      | _ => cases value

theorem countP_flatMap_filter {Item Value : Type} (items : List Item)
    (give : Item → List Value) (keep : Item → Bool) (kind : Value → Bool) :
    (items.flatMap give).countP kind =
      ((items.filter keep).flatMap give).countP kind +
        ((items.filter fun item => !keep item).flatMap give).countP kind := by
  have both := (List.filter_append_perm keep items).flatMap_right give
  rw [← both.countP_eq, List.flatMap_append, List.countP_append]

/-- The marks of the new document are those of the other blocks. -/
theorem Replaces.countP_isMark (replaces : Replaces keys before after) :
    after.lines.countP (TomlLine.isMark keys) =
      ((before.blocks.filter fun block => !block.isUnder keys).flatMap
          TomlBlock.lines).countP (TomlLine.isMark keys) +
        before.trailing.countP (TomlLine.isMark keys) := by
  have none : ((after.blocks.filter fun block =>
      !!block.isUnder keys).flatMap TomlBlock.lines).countP
        (TomlLine.isMark keys) = 0 := by
    apply List.countP_eq_zero.mpr
    intro line member
    rcases List.mem_flatMap.mp member with ⟨block, within, inside⟩
    rcases List.mem_filter.mp within with ⟨within, under⟩
    rw [Bool.not_not] at under
    rw [(replaces.fresh block within under).no_mark line inside]
    exact Bool.false_ne_true
  rw [TomlLayout.lines, List.countP_append,
    countP_flatMap_filter after.blocks TomlBlock.lines
      (fun block => !block.isUnder keys), none, Nat.add_zero,
    replaces.others, replaces.trailing]

/-- So none is lost where every line with a text is kept. -/
theorem Replaces.no_mark (replaces : Replaces keys before after)
    (kept : ((before.foreign keys).filter fun line =>
      !line.isBlank).Sublist after.lines) :
    ∀ block ∈ before.blocks, block.isUnder keys = true →
      ∀ line ∈ block.foreign keys, line.isMark keys = false := by
  have marks : (before.foreign keys).countP (TomlLine.isMark keys) ≤
      after.lines.countP (TomlLine.isMark keys) := by
    have most := kept.countP_le (p := TomlLine.isMark keys)
    rw [List.countP_filter] at most
    refine Nat.le_trans (Nat.le_of_eq ?_) most
    refine List.countP_congr fun line _ => ?_
    cases line with
    | blank text => simp [TomlLine.isMark]
    | _ => simp [TomlLine.isBlank]
  have others : ((before.blocks.filter fun block =>
      !block.isUnder keys).flatMap (TomlBlock.foreign keys)) =
        (before.blocks.filter fun block => !block.isUnder keys).flatMap
          TomlBlock.lines := by
    refine List.flatMap_congr fun block member => ?_
    have apart := (List.mem_filter.mp member).2
    rw [Bool.not_eq_true'] at apart
    exact block.foreign_eq_lines apart
  rw [replaces.countP_isMark, TomlLayout.foreign, List.countP_append,
    countP_flatMap_filter before.blocks (TomlBlock.foreign keys)
      (fun block => !block.isUnder keys), others] at marks
  have zero : ((before.blocks.filter fun block =>
      !!block.isUnder keys).flatMap (TomlBlock.foreign keys)).countP
        (TomlLine.isMark keys) = 0 := by
    omega
  intro block member under line inside
  have within : block ∈
      before.blocks.filter fun block => !!block.isUnder keys :=
    List.mem_filter.mpr ⟨member, by rw [under]; rfl⟩
  exact Bool.eq_false_iff.mpr (List.countP_eq_zero.mp zero line
    (List.mem_flatMap.mpr ⟨block, within, inside⟩))

variable (keys) in
/-- No comment stands above a block under the keys, and each of these blocks is
one of the keys themselves. -/
structure Bare (layout : TomlLayout) : Prop where
  comments : ∀ block ∈ layout.blocks, block.isUnder keys = true →
    ∀ line ∈ block.above, line.isComment = false
  tables : ∀ block ∈ layout.blocks, block.isUnder keys = true →
    block.isOwn keys = true

variable (keys) in
/-- No blank line stands in a block under the keys or above it. -/
def Unspaced (layout : TomlLayout) : Prop :=
  ∀ block ∈ layout.blocks, block.isUnder keys = true →
    ∀ line ∈ block.lines, line.isBlank = false

/-- The lines with a text are kept exactly if no comment and no table below one
of the keys is lost. -/
theorem Replaces.keepsText_iff (replaces : Replaces keys before after)
    (grouped : ∀ block ∈ before.blocks, Trivia block.above) :
    ((before.foreign keys).filter fun line =>
        !line.isBlank).Sublist after.lines ↔ Bare keys before := by
  constructor
  · intro kept
    have lost := replaces.no_mark kept
    constructor
    · intro block member under line upper
      have inside : line ∈ block.foreign keys := by
        rw [TomlBlock.foreign]
        split
        · exact List.mem_append_left _ upper
        · exact List.mem_append_left _ upper
      have unmarked := lost block member under line inside
      cases line with
      | comment text => cases unmarked
      | _ => rfl
    · intro block member under
      by_contra other
      have inside : block.first ∈ block.foreign keys := by
        rw [TomlBlock.foreign, if_neg other]
        exact List.mem_append_right _ List.mem_cons_self
      have unmarked := lost block member under block.first inside
      rcases block with ⟨above, first, body⟩
      rcases first with text | text | ⟨path, text⟩ | ⟨path, text⟩
      · cases under
      · cases under
      · rcases path with _ | ⟨key, _ | ⟨second, rest⟩⟩
        · cases under
        · exact other under
        · exact Bool.false_ne_true (unmarked.symm.trans under)
      · cases path with
        | nil => cases under
        | cons key rest => exact other under
  · intro bare
    apply replaces.keeps
    intro block member under line inside
    rw [TomlBlock.foreign, if_pos (bare.tables block member under)] at inside
    rw [Bool.not_eq_false']
    rcases List.mem_append.mp inside with upper | blank
    · rcases grouped block member line upper with blank | comment
      · exact blank
      · rw [bare.comments block member under line upper] at comment
        cases comment
    · exact (List.mem_filter.mp blank).2

/-- All lines are kept where no blank line is lost either. -/
theorem Replaces.keeps_of_unspaced (replaces : Replaces keys before after)
    (grouped : ∀ block ∈ before.blocks, Trivia block.above)
    (bare : Bare keys before) (unspaced : Unspaced keys before) :
    (before.foreign keys).Sublist after.lines := by
  have none : ∀ block ∈ before.blocks, block.isUnder keys = true →
      ∀ line ∈ block.foreign keys, (fun _ => true) line = false := by
    intro block member under line inside
    have filled := unspaced block member under
    rw [TomlBlock.foreign, if_pos (bare.tables block member under)] at inside
    rcases List.mem_append.mp inside with upper | blank
    · rcases grouped block member line upper with blank | comment
      · rw [filled line (List.mem_append_left _ upper)] at blank
        cases blank
      · rw [bare.comments block member under line upper] at comment
        cases comment
    · rcases List.mem_filter.mp blank with ⟨within, blank⟩
      rw [filled line
        (List.mem_append_right _ (List.mem_cons_of_mem _ within))] at blank
      cases blank
  have kept := replaces.keeps none
  rw [List.filter_true] at kept
  exact kept

end Keys

end NuxAuth.Lib.TomlLines
