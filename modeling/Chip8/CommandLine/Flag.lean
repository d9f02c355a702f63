import Chip8.Dialect

/-! The flags of the command line and how they are spelled. -/
namespace Chip8.CommandLine

inductive Parameter where
  | frames
  | rate
  | preset
  | press
  | seed
  | logFile
  deriving DecidableEq, Repr

inductive Mark where
  | help
  | switch (s : Switch)
  | skipUnknown
  | realtime
  | verbose
  | version
  deriving DecidableEq, Repr

inductive Flag where
  | parameter (p : Parameter)
  | mark (m : Mark)
  deriving DecidableEq, Repr

structure Spelling where
  text : String
  flag : Flag
  on : Bool := true
  deriving DecidableEq, Repr

def dashed (name : String) : String :=
  String.ofList (name.toList.map fun c => if c = '_' then '-' else c)

def switchSpellings (s : Switch) : List Spelling :=
  [{ text := "--" ++ dashed s.name, flag := .mark (.switch s) },
    { text := "--no-" ++ dashed s.name, flag := .mark (.switch s), on := false }]

def spellings : List Spelling :=
  [{ text := "-h", flag := .mark .help },
    { text := "--help", flag := .mark .help },
    { text := "--frames", flag := .parameter .frames },
    { text := "--rate", flag := .parameter .rate },
    { text := "--preset", flag := .parameter .preset }] ++
  Switch.all.flatMap switchSpellings ++
  [{ text := "--press", flag := .parameter .press },
    { text := "--seed", flag := .parameter .seed },
    { text := "--skip-unknown", flag := .mark .skipUnknown },
    { text := "--realtime", flag := .mark .realtime },
    { text := "--verbose", flag := .mark .verbose },
    { text := "-v", flag := .mark .verbose },
    { text := "--log-file", flag := .parameter .logFile },
    { text := "--version", flag := .mark .version }]

def spelled? (text : String) : Option Spelling := spellings.find? (·.text = text)

def Flag.title (f : Flag) : String :=
  "/".intercalate ((spellings.filter (·.flag = f)).map Spelling.text)

end Chip8.CommandLine
