import NuxAuth.Gateway.ApplyConfig
import NuxAuth.Lib.TomlLines

/-!
# The operator's lines in `guard.toml`

`apply_remote_config` replaces three items of the document by new tables.  The
comments above a header belong to its table, so those above the three headers go
with the old tables.
-/

namespace NuxAuth.Gateway

open NuxAuth.Core
open NuxAuth.Lib.Toml NuxAuth.Lib.TomlLines

/-- The items that are replaced. -/
def remoteKeys : List String := ["rate_limit", "allow", "checksum_bin"]

/-- What is assumed of `toml_edit` for a text, where `scan` cuts texts into
lines and `layout` is what a document stores. -/
structure TomlEdit.StoresLines (toml : TomlEdit) (remote : RemoteConfig)
    (scan : String → List TomlLine)
    (layout : toml.DocumentMut → TomlLayout) (text : String) : Prop where
  scans : ∀ source,
    (scan source).flatMap (fun line => line.text.toList) = source.toList
  /-- the comment and blank lines above a header are stored with its table -/
  stores : ∀ doc, toml.parse text = some doc → layout doc = group (scan text)
  /-- a new table has no comment, and other items stay as they are -/
  assigns : ∀ doc key item, (∀ source, item ≠ .text source) →
    Replaces [key] (layout doc) (layout (toml.setItem doc key item))
  prints : ∀ doc, toml.parse text = some doc →
    scan (toml.print (toml.edit doc remote)) =
      (layout (toml.edit doc remote)).lines

/-- Every line is kept that is neither a header nor a key of the three sections,
nor a comment between them. -/
def KeepsLines (before after : List TomlLine) : Prop :=
  ((group before).foreign remoteKeys).Sublist after

/-- The same for the lines that are not blank. -/
def KeepsText (before after : List TomlLine) : Prop :=
  (((group before).foreign remoteKeys).filter fun line =>
    !line.isBlank).Sublist after

theorem KeepsLines.keepsText {before after : List TomlLine}
    (kept : KeepsLines before after) : KeepsText before after :=
  List.filter_sublist.trans kept

section Edit

variable {toml : TomlEdit} {remote : RemoteConfig}
  {scan : String → List TomlLine} {layout : toml.DocumentMut → TomlLayout}
  {text rewritten : String}

/-- The three assignments replace the blocks of the three items. -/
theorem TomlEdit.StoresLines.replaces
    (stores : toml.StoresLines remote scan layout text)
    (doc : toml.DocumentMut) :
    Replaces remoteKeys (layout doc) (layout (toml.edit doc remote)) := by
  have limit : ∀ before, Replaces ["rate_limit"] (layout before) _ :=
    fun before => stores.assigns before "rate_limit"
      (tomlRateLimit remote.rateLimit) fun _ => TomlItem.noConfusion
  have allow : ∀ before, Replaces ["allow"] (layout before) _ :=
    fun before => stores.assigns before "allow" (tomlAllow remote.allow)
      fun _ => TomlItem.noConfusion
  have sums : ∀ before, Replaces ["checksum_bin"] (layout before) _ :=
    fun before => stores.assigns before "checksum_bin"
      (tomlChecksumBin remote.checkSum) fun _ => TomlItem.noConfusion
  exact ((limit doc).append (allow _)).append (sums _)

/--
A successful call keeps the operator's lines with a text exactly if no comment
stands above one of the three items and no table below one of them has a header
of its own.  It keeps the blank lines too if none stands in these sections or
above them.
-/
theorem operator_lines_kept_iff
    (stores : toml.StoresLines remote scan layout text)
    (written : toml.rewrite text remote = some rewritten) :
    (KeepsText (scan text) (scan rewritten) ↔
        Bare remoteKeys (group (scan text))) ∧
      (Bare remoteKeys (group (scan text)) →
        Unspaced remoteKeys (group (scan text)) →
          KeepsLines (scan text) (scan rewritten)) := by
  rcases Option.map_eq_some_iff.mp written with ⟨doc, parsed, rfl⟩
  have replaces := stores.replaces doc
  rw [stores.stores doc parsed] at replaces
  have grouped := trivia_group (scan text)
  rw [stores.prints doc parsed]
  exact ⟨replaces.keepsText_iff grouped, replaces.keeps_of_unspaced grouped⟩

end Edit

/-! ## A small library -/

section SmallFile

open SmallGateway

/-- The physical lines of a text, each with its newline. -/
def cutLines : List Char → List (List Char)
  | [] => []
  | char :: rest =>
      if char = '\n' then
        [char] :: cutLines rest
      else
        match cutLines rest with
        | [] => [[char]]
        | first :: others => (char :: first) :: others

/-- A line whose value ends on it. -/
def lineOf (chars : List Char) : TomlLine :=
  let name := fun (rest : List Char) =>
    String.ofList (rest.takeWhile fun char => char.isAlphanum || char = '_')
  match chars.dropWhile Char.isWhitespace with
  | [] => .blank (String.ofList chars)
  | '#' :: _ => .comment (String.ofList chars)
  | '[' :: '[' :: rest => .header [name rest] (String.ofList chars)
  | '[' :: rest => .header [name rest] (String.ofList chars)
  | rest => .keyValue [name rest] (String.ofList chars)

/-- The lines of a text. -/
def scanLines (source : String) : List TomlLine :=
  (cutLines source.toList).map lineOf

theorem flatten_cutLines (chars : List Char) :
    (cutLines chars).flatten = chars := by
  induction chars with
  | nil => rfl
  | cons char rest induction =>
      rw [cutLines]
      split
      · rw [List.flatten_cons, induction]
        rfl
      · split
        · next none =>
            rw [none] at induction
            rw [← induction]
            rfl
        · next first others some =>
            rw [some, List.flatten_cons] at induction
            rw [List.flatten_cons, List.cons_append, induction]

theorem toList_text_lineOf (chars : List Char) :
    (lineOf chars).text.toList = chars := by
  simp only [lineOf]
  split <;> exact String.toList_ofList

theorem scanLines_text (source : String) :
    (scanLines source).flatMap (fun line => line.text.toList) =
      source.toList := by
  rw [scanLines, List.flatMap_map]
  simp only [toList_text_lineOf]
  rw [List.flatMap_id', flatten_cutLines]

/-- A value on the right of its key. -/
def printValue : TomlValue → String
  | .integer value => toString value
  | .string text => "\"" ++ text ++ "\""
  | .array texts =>
      let quoted := texts.map fun text => "\"" ++ text ++ "\""
      "[" ++ String.intercalate ", " quoted ++ "]"

/-- A table under its header, behind a blank line. -/
def printTable (key header : String) (entries : TomlTable) : TomlBlock where
  above := [.blank "\n"]
  first := .header [key] header
  body := entries.map fun entry =>
    .keyValue [entry.1] (entry.1 ++ " = " ++ printValue entry.2 ++ "\n")

/-- The blocks of an item. -/
def printItem (key : String) : TomlItem → List TomlBlock
  | .table entries => [printTable key ("[" ++ key ++ "]\n") entries]
  | .arrayOfTables tables =>
      tables.map (printTable key ("[[" ++ key ++ "]]\n"))
  | .text _ => []

/-- The old blocks of a key go, and the new ones stand after the others. -/
def assignBlocks (layout : TomlLayout) (key : String) (item : TomlItem) :
    TomlLayout where
  blocks := (layout.blocks.filter fun block => !block.isUnder [key]) ++
    printItem key item
  trailing := layout.trailing

theorem fresh_printItem {key : String} {item : TomlItem} {block : TomlBlock}
    (member : block ∈ printItem key item) :
    block.isUnder [key] = true ∧ block.Fresh := by
  have printed : ∃ header entries, block = printTable key header entries := by
    cases item with
    | table entries => exact ⟨_, _, List.mem_singleton.mp member⟩
    | arrayOfTables tables =>
        rcases List.mem_map.mp member with ⟨entries, -, rfl⟩
        exact ⟨_, _, rfl⟩
    | text source => cases member
  rcases printed with ⟨header, entries, rfl⟩
  refine ⟨by simp [TomlBlock.isUnder, printTable], ?_, ⟨key, header, rfl⟩, ?_⟩
  · intro line upper
    rw [List.mem_singleton.mp upper]
    rfl
  · intro line inside
    rcases List.mem_map.mp inside with ⟨entry, -, rfl⟩
    rfl

theorem replaces_assignBlocks (layout : TomlLayout) (key : String)
    (item : TomlItem) :
    Replaces [key] layout (assignBlocks layout key item) where
  others := by
    have none : (printItem key item).filter
        (fun block => !block.isUnder [key]) = [] := by
      apply List.filter_eq_nil_iff.mpr
      intro block member
      rw [(fresh_printItem member).1]
      exact Bool.false_ne_true
    rw [assignBlocks, List.filter_append, none, List.append_nil,
      List.filter_filter]
    simp only [Bool.and_self]
  trailing := rfl
  fresh := by
    intro block member under
    rcases List.mem_append.mp member with kept | fresh
    · have apart := (List.mem_filter.mp kept).2
      rw [under] at apart
      cases apart
    · exact (fresh_printItem fresh).2

/-- What both texts below say. -/
def limitedRoot : TomlRoot := fun key =>
  if key = "listen" then
    some (.string "/ip4/127.0.0.1/tcp/4588")
  else if key = "rate_limit" then
    some (.table [("max", .integer 30)])
  else
    none

/-- What a document says, and its lines. -/
abbrev LinesDoc := TomlRoot × TomlLayout

/-- The item is replaced, and so are its blocks. -/
def assignItem (doc : LinesDoc) (key : String) (item : TomlItem) : LinesDoc :=
  (Function.update doc.1 key item.data, assignBlocks doc.2 key item)

/-- The lines one behind the other. -/
@[irreducible]
def printDoc (doc : LinesDoc) : String :=
  String.join (doc.2.lines.map TomlLine.text)

/-- The libraries on one text. -/
def linesToml (text : String) : TomlEdit where
  DocumentMut := LinesDoc
  parse source :=
    if source = text then some (limitedRoot, group (scanLines text)) else none
  setItem := assignItem
  print := printDoc
  content := Prod.fst
  fromStr source := if source = text then some limitedRoot else none

/-- The document after the three assignments. -/
def editedDoc (text : String) (remote : RemoteConfig) : LinesDoc :=
  (linesToml text).edit (limitedRoot, group (scanLines text)) remote

theorem eq_of_parse_linesToml {text source : String}
    {doc : (linesToml text).DocumentMut}
    (parsed : (linesToml text).parse source = some doc) :
    (limitedRoot, group (scanLines text)) = doc :=
  Option.some.inj (Option.ite_none_right_eq_some.mp parsed).2

theorem rewrite_linesToml (text : String) (remote : RemoteConfig) :
    (linesToml text).rewrite text remote =
      some (printDoc (editedDoc text remote)) :=
  Option.map_eq_some_iff.mpr
    ⟨(limitedRoot, group (scanLines text)), if_pos rfl, rfl⟩

theorem linesToml_stores {text : String} {remote : RemoteConfig}
    (again : scanLines (printDoc (editedDoc text remote)) =
      (editedDoc text remote).2.lines) :
    (linesToml text).StoresLines remote scanLines Prod.snd text where
  scans := scanLines_text
  stores doc parsed := by
    rw [← eq_of_parse_linesToml parsed]
  assigns doc key item _ := replaces_assignBlocks doc.2 key item
  prints doc parsed := by
    rw [← eq_of_parse_linesToml parsed]
    exact again

/-- A configuration that allows nobody. -/
def limitRemote : RemoteConfig := ⟨⟨120, 60, []⟩, [], [], "1"⟩

/-- A file with a comment above a root key, under a header and at its end. -/
def carefulText : String :=
  "# adresse publique\nlisten = \"/ip4/127.0.0.1/tcp/4588\"\n" ++
    "[rate_limit]\n# par minute\nmax = 30\n# fin\n"

theorem operator_lines_kept_iff_small :
    ∃ rewritten, (linesToml carefulText).rewrite carefulText limitRemote =
        some rewritten ∧
      KeepsText (scanLines carefulText) (scanLines rewritten) ∧
      KeepsLines (scanLines carefulText) (scanLines rewritten) := by
  have written := rewrite_linesToml carefulText limitRemote
  have again : scanLines (printDoc (editedDoc carefulText limitRemote)) =
      (editedDoc carefulText limitRemote).2.lines := by
    decide +kernel
  rcases operator_lines_kept_iff (linesToml_stores again) written with
    ⟨text, lines⟩
  have bare : Bare remoteKeys (group (scanLines carefulText)) :=
    ⟨by decide +kernel, by decide +kernel⟩
  have unspaced : Unspaced remoteKeys (group (scanLines carefulText)) := by
    rw [Unspaced]
    decide +kernel
  exact ⟨_, written, text.mpr bare, lines bare unspaced⟩

/-- A file with a comment above a table. -/
def commentedText : String :=
  "listen = \"/ip4/127.0.0.1/tcp/4588\"\n\n# par minute\n" ++
    "[rate_limit]\nmax = 30\n"

/-- The comment above the header is gone. -/
theorem comment_above_header_lost :
    ∃ rewritten, (linesToml commentedText).rewrite commentedText limitRemote =
        some rewritten ∧
      (linesToml commentedText).StoresLines limitRemote scanLines Prod.snd
        commentedText ∧
      .comment "# par minute\n" ∈ scanLines commentedText ∧
      .comment "# par minute\n" ∉ scanLines rewritten ∧
      ¬ KeepsLines (scanLines commentedText) (scanLines rewritten) := by
  have written := rewrite_linesToml commentedText limitRemote
  have again : scanLines (printDoc (editedDoc commentedText limitRemote)) =
      (editedDoc commentedText limitRemote).2.lines := by
    decide +kernel
  have lost : .comment "# par minute\n" ∉
      scanLines (printDoc (editedDoc commentedText limitRemote)) := by
    decide +kernel
  refine ⟨_, written, linesToml_stores again, by decide +kernel, lost, ?_⟩
  intro kept
  apply lost
  apply kept.keepsText.subset
  decide +kernel

end SmallFile

end NuxAuth.Gateway
