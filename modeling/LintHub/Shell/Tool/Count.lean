import LintHub.Shell.Tool.Arguments

set_option autoImplicit false

/-!
# Counting

What `wc` does: it counts the lines, words, bytes and columns of files. Text is taken as bytes: only
ASCII characters can be seen.
-/

namespace LintHub.Shell

/-- The number of words: runs of bytes between blanks in which something can be seen. -/
def countWords (bs : Bytes) : Nat :=
  let (n, within) := bs.foldl (fun (x : Nat × Bool) b =>
    if isSpaceByte b then (if x.2 then x.1 + 1 else x.1, false)
    else (x.1, x.2 || isPrintable b)) (0, false)
  if within then n + 1 else n

/-- The number of columns that the longest line takes. -/
def longestLine (bs : Bytes) : Nat :=
  let (longest, column) := bs.foldl (fun (x : Nat × Nat) b =>
    if b == 10 || b == 12 || b == 13 then (max x.1 x.2, 0)
    else if b == 9 then (x.1, x.2 + (8 - x.2 % 8))
    else if isPrintable b then (x.1, x.2 + 1)
    else x) (0, 0)
  max longest column

/-- The counts that options ask for, in the order in which they are written. -/
def counts (options : List Char) (bs : Bytes) : List Nat :=
  let options := if options.isEmpty then ['l', 'w', 'c'] else options
  ([('l', bs.count 10), ('w', countWords bs), ('m', bs.length), ('c', bs.length),
    ('L', longestLine bs)].filter fun x => options.contains x.1).map (·.2)

/-- Counts with those of another file: they are added, but of the longest lines one remains. -/
def addCounts (options : List Char) (a b : List Nat) : List Nat :=
  if options.contains 'L' then
    List.zipWith (· + ·) a.dropLast b.dropLast ++ [max (a.getLastD 0) (b.getLastD 0)]
  else List.zipWith (· + ·) a b

/-- Counts on one line, each in a field of the given width. -/
def countsLine (width : Nat) (l : List Nat) (name : Option Bytes) : Bytes :=
  let field (n : Nat) : Bytes :=
    let ds := bytesOf (toString n)
    List.replicate (width - ds.length) 32 ++ ds
  joined (l.map field) ++ ((name.map fun n => 32 :: n).getD []) ++ [10]

/-- The size of what a name means, and nothing if that is no file; there may be no such name. -/
def sizeOf? (s : State) (name : Bytes) : Option (Option Nat) :=
  if name == [45] then
    match s.handle? 0 with
    | some (.input _ size) => some size
    | _ => some none
  else
    match s.files.lookup s.directory (State.pathOf name) with
    | .ok (.file bs) => some (some bs.length)
    | .ok _ => some none
    | .error _ => none

/-- How wide the fields of counts are: as wide as the sum of all sizes, and wider where there are
inputs that are no files. -/
def fieldWidth (s : State) (names : List Bytes) (columns : Nat) : Nat :=
  if names.length == 1 && columns == 1 then 1
  else
    let sizes := names.filterMap (sizeOf? s)
    let width := (toString ((sizes.filterMap id).foldl (· + ·) 0)).length
    if sizes.contains none then max width 7 else width

/-- The counts of one file, written on a line, and added to those of the files before it. -/
def countFile (program : String) (options : List Char) (width : Nat) (named : Bool)
    (x : State × List Nat) (name : Bytes) : State × List Nat :=
  match x.1.readArgument name with
  | (s, .error e) =>
    let s := fileComplaint program name e.reason s
    (if e == .isDirectory then s.print (countsLine width (counts options []) (some name)) else s,
      x.2)
  | (s, .ok bs) =>
    let l := counts options bs
    (s.print (countsLine width l (if named then some name else none)), addCounts options x.2 l)

/-- The options of `wc`. -/
def wcOptions : OptionTable :=
  [('c', "bytes"), ('m', "chars"), ('l', "lines"), ('w', "words"), ('L', "max-line-length")]

/-- Counts the lines, words and bytes of the input or of files. -/
def wc (program : String) (args : List Bytes) : State → State :=
  withProgramOptions program wcOptions false args fun options names s =>
    let inputs := if names.isEmpty then [[45]] else names
    let none := counts options []
    let width := fieldWidth s inputs none.length
    let (s, total) := inputs.foldl (countFile program options width (!names.isEmpty)) (s, none)
    if inputs.length == 1 then s
    else s.print (countsLine width total (some (bytesOf "total")))

end LintHub.Shell
