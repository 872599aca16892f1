import SketchPreview.Text.Find
import SketchPreview.Text.Word

/-!
# Command line options

An option is a switch or takes a value, which stands behind its name or after it. Short names may
be run together. Each option may be given once, and one argument may be a file instead.

* `Switch`, `Setting`, `Key`: the options and their names;
* `Options`: what was asked for;
* `Progress.step`: one more argument; `Options.parse?`: all of them;
* `UsageError`: what is wrong with arguments.
-/

namespace SketchPreview.CommandLine

/-- The options without a value. -/
inductive Switch where
  | invert
  | grid
  | textForeground
  | noFetch
  | emitOps
  | noPreview
  | quiet
  deriving DecidableEq, Repr

/-- The options with a value. -/
inductive Setting where
  | config
  | width
  | height
  | scale
  | bdf
  | fontDir
  | fetchUrl
  | cacheLimit
  | out
  | zoom
  | ops
  deriving DecidableEq, Repr

/-- What an option name stands for. -/
inductive Key where
  | switch (s : Switch)
  | setting (s : Setting)
  | version
  deriving DecidableEq, Repr

/-- The option of a long name. -/
def Key.ofLong? : String → Option Key
  | "invert" => some (switch .invert)
  | "grid" => some (switch .grid)
  | "text-foreground" => some (switch .textForeground)
  | "no-fetch" => some (switch .noFetch)
  | "emit-ops" => some (switch .emitOps)
  | "no-preview" => some (switch .noPreview)
  | "quiet" => some (switch .quiet)
  | "config" => some (setting .config)
  | "width" => some (setting .width)
  | "height" => some (setting .height)
  | "scale" => some (setting .scale)
  | "bdf" => some (setting .bdf)
  | "font-dir" => some (setting .fontDir)
  | "fetch-url" => some (setting .fetchUrl)
  | "cache-limit-mb" => some (setting .cacheLimit)
  | "out" => some (setting .out)
  | "zoom" => some (setting .zoom)
  | "ops" => some (setting .ops)
  | "version" => some version
  | _ => none

/-- The option of a short name. -/
def Key.ofShort? : Char → Option Key
  | 'q' => some (switch .quiet)
  | 'c' => some (setting .config)
  | 'W' => some (setting .width)
  | 'H' => some (setting .height)
  | 's' => some (setting .scale)
  | 'o' => some (setting .out)
  | 'z' => some (setting .zoom)
  | 'V' => some version
  | _ => none

/-- What was asked for. -/
structure Options where
  file : Option String
  config : Option String
  width : Option UInt32
  height : Option UInt32
  scale : Option UInt32
  invert : Bool
  grid : Bool
  textForeground : Bool
  bdf : Option String
  fontDir : Option String
  fetchUrl : Option String
  noFetch : Bool
  cacheLimit : Option UInt64
  out : Option String
  zoom : UInt32
  emitOps : Bool
  ops : Option String
  noPreview : Bool
  quiet : Bool
  deriving DecidableEq, Repr

/-- Nothing asked for. -/
def Options.none : Options where
  file := Option.none
  config := Option.none
  width := Option.none
  height := Option.none
  scale := Option.none
  invert := false
  grid := false
  textForeground := false
  bdf := Option.none
  fontDir := Option.none
  fetchUrl := Option.none
  noFetch := false
  cacheLimit := Option.none
  out := Option.none
  zoom := 1
  emitOps := false
  ops := Option.none
  noPreview := false
  quiet := false

/-- What is wrong with arguments. -/
inductive UsageError where
  | unknownOption (name : String)
  | missingValue
  | unwantedValue (name : String)
  | repeated
  | badValue (value : String)
  | unexpectedArgument (arg : String)
  deriving DecidableEq, Repr

/-- The words of a usage error. -/
def UsageError.message : UsageError → String
  | unknownOption name => "unexpected argument: " ++ name
  | missingValue => "a value is required"
  | unwantedValue name => "no value is allowed: " ++ name
  | repeated => "an option was given more than once"
  | badValue value => "invalid value: " ++ value
  | unexpectedArgument arg => "unexpected argument: " ++ arg

/-- Sets a switch. -/
def Options.turnOn (o : Options) : Switch → Options
  | .invert => { o with invert := true }
  | .grid => { o with grid := true }
  | .textForeground => { o with textForeground := true }
  | .noFetch => { o with noFetch := true }
  | .emitOps => { o with emitOps := true }
  | .noPreview => { o with noPreview := true }
  | .quiet => { o with quiet := true }

/-- A number of 32 bits. -/
def number32 (value : String) : Except UsageError UInt32 :=
  match Text.readInt? value.toList with
  | some n =>
    if 0 ≤ n ∧ n < UInt32.size then .ok (UInt32.ofNat n.toNat) else .error (.badValue value)
  | none => .error (.badValue value)

/-- A number of 64 bits, without a minus sign even for zero. -/
def number64 (value : String) : Except UsageError UInt64 :=
  match Text.readInt? value.toList with
  | some n =>
    if n < UInt64.size ∧ value.toList.head? ≠ some '-' then .ok (UInt64.ofNat n.toNat)
    else .error (.badValue value)
  | none => .error (.badValue value)

/-- A path, which must not be empty. -/
def path (value : String) : Except UsageError String :=
  if value = "" then .error .missingValue else .ok value

/-- Gives an option its value. -/
def Options.assign (o : Options) (value : String) : Setting → Except UsageError Options
  | .config => (path value).map fun p => { o with config := some p }
  | .width => (number32 value).map fun n => { o with width := some n }
  | .height => (number32 value).map fun n => { o with height := some n }
  | .scale => (number32 value).map fun n => { o with scale := some n }
  | .bdf => (path value).map fun p => { o with bdf := some p }
  | .fontDir => (path value).map fun p => { o with fontDir := some p }
  | .fetchUrl => .ok { o with fetchUrl := some value }
  | .cacheLimit => (number64 value).map fun n => { o with cacheLimit := some n }
  | .out => (path value).map fun p => { o with out := some p }
  | .zoom => (number32 value).map fun n => { o with zoom := n }
  | .ops => (path value).map fun p => { o with ops := some p }

/-- Where the reading of arguments stands: the options given so far, one that waits for its value,
and whether only files may follow. Once the version is asked for, nothing else counts. -/
structure Progress where
  options : Options
  seen : List Key
  pending : Option Setting
  onlyFiles : Bool
  version : Bool
  deriving DecidableEq, Repr

/-- Nothing read yet. -/
def Progress.start : Progress := ⟨.none, [], Option.none, false, false⟩

namespace Progress

/-- Notes that an option is given, which may be done once. -/
def mark (p : Progress) (key : Key) : Except UsageError Progress :=
  if key ∈ p.seen then .error .repeated else .ok { p with seen := key :: p.seen }

/-- Gives an option a value. -/
def assign (p : Progress) (s : Setting) (value : String) : Except UsageError Progress := do
  let p ← p.mark (.setting s)
  let options ← p.options.assign value s
  return { p with options, pending := Option.none }

/-- Sets a switch. -/
def turnOn (p : Progress) (s : Switch) : Except UsageError Progress := do
  let p ← p.mark (.switch s)
  return { p with options := p.options.turnOn s }

/-- Takes in a file. -/
def takeFile (p : Progress) (arg : String) : Except UsageError Progress := do
  if p.options.file.isSome then .error (.unexpectedArgument arg)
  else
    let file ← path arg
    return { p with options.file := some file }

/-- Takes in a long option, perhaps with a value behind a sign of equality. -/
def long (p : Progress) (arg : List Char) : Except UsageError Progress :=
  let name := String.ofList (arg.takeWhile (· ≠ '='))
  let value := (arg.dropWhile (· ≠ '=')).drop 1
  let hasValue := '=' ∈ arg
  match Key.ofLong? name with
  | Option.none => .error (.unknownOption name)
  | some (.switch s) => if hasValue then .error (.unwantedValue name) else p.turnOn s
  | some .version =>
    if hasValue then .error (.unwantedValue name) else .ok { p with version := true }
  | some (.setting s) =>
    if hasValue then p.assign s (String.ofList value) else .ok { p with pending := some s }

/-- A text without a sign of equality at its front. -/
def dropEquals : List Char → List Char
  | '=' :: rest => rest
  | s => s

/-- Takes in short options that are run together. A value may follow the last one. -/
def shorts (p : Progress) : List Char → Except UsageError Progress
  | [] => .ok p
  | c :: rest =>
    match Key.ofShort? c with
    | Option.none => .error (.unknownOption (String.singleton c))
    | some .version => .ok { p with version := true }
    | some (.switch s) => do
      let p ← p.turnOn s
      p.shorts rest
    | some (.setting s) =>
      if rest = [] then .ok { p with pending := some s }
      else p.assign s (String.ofList (dropEquals rest))

/-- Whether an argument is made of option names. -/
def isOption : List Char → Bool
  | '-' :: _ :: _ => true
  | _ => false

/-- Takes in an option, or two hyphens, behind which only files may follow. -/
def option (p : Progress) (arg : List Char) : Except UsageError Progress :=
  match arg with
  | ['-', '-'] => .ok { p with onlyFiles := true }
  | '-' :: '-' :: name => p.long name
  | _ => p.shorts (arg.drop 1)

/-- Takes in an argument. -/
def step (p : Progress) (arg : String) : Except UsageError Progress :=
  if p.version then .ok p
  else if p.onlyFiles then p.takeFile arg
  else
    match p.pending with
    | some s => if isOption arg.toList then .error .missingValue else p.assign s arg
    | Option.none => if isOption arg.toList then p.option arg.toList else p.takeFile arg

end Progress

/-- What the arguments ask for: the version, or a run with options. -/
inductive Request where
  | version
  | run (o : Options)
  deriving DecidableEq, Repr

/-- What the arguments ask for. -/
def Request.parse (args : List String) : Except UsageError Request := do
  let p ← args.foldlM Progress.step .start
  if p.version then return .version
  else if p.pending.isSome then .error .missingValue
  else return .run p.options

end SketchPreview.CommandLine
