import Typeset.Text.Basic

/-!
# Flags

The flags of the command line.  A flag is a switch, or it takes a value; most of them can be given
by an environment variable as well.
-/

namespace Typeset

namespace CommandLine

/-- A flag of the command line. -/
inductive Flag where
  | batch
  | program
  | pdfEngine
  | template
  | scratchDirectory
  | cacheRoot
  | labelPattern
  | implicitFigures
  | showDebug
  | outputDirectory
  | baseUrl
  | endpoint
  | bucket
  | region
  | token
  | publicBaseUrl
  | noProgress
  | verbose
  | quiet
  | help
  | version
  deriving DecidableEq, Repr

/-- What a flag is good for: it switches something on, it takes a text or a path that must not be
empty, or it asks something about the program. -/
inductive FlagKind where
  | switch
  | text
  | path
  | question
  deriving DecidableEq, Repr

namespace Flag

/-- All flags.  Environment variables are looked at in this order. -/
def all : List Flag :=
  [batch, program, pdfEngine, template, scratchDirectory, cacheRoot, labelPattern,
    implicitFigures, showDebug, outputDirectory, baseUrl, endpoint, bucket, region, token,
    publicBaseUrl, noProgress, verbose, quiet, help, version]

/-- What the flag is good for. -/
def kind : Flag → FlagKind
  | batch | implicitFigures | showDebug | noProgress | verbose | quiet => .switch
  | program | template | scratchDirectory | cacheRoot | outputDirectory => .path
  | pdfEngine | labelPattern | baseUrl | endpoint | bucket | region | token | publicBaseUrl => .text
  | help | version => .question

/-- Whether a value belongs to the flag. -/
def takesValue (flag : Flag) : Bool :=
  flag.kind == .text || flag.kind == .path

/-- The name of the flag, which is written after two dashes. -/
def name : Flag → Text
  | batch => "batch".toList
  | program => "pandoc".toList
  | pdfEngine => "pdf-engine".toList
  | template => "template".toList
  | scratchDirectory => "scratch-dir".toList
  | cacheRoot => "cache-root".toList
  | labelPattern => "label-pattern".toList
  | implicitFigures => "implicit-figures".toList
  | showDebug => "show-debug".toList
  | outputDirectory => "output-dir".toList
  | baseUrl => "base-url".toList
  | endpoint => "endpoint".toList
  | bucket => "bucket".toList
  | region => "region".toList
  | token => "token".toList
  | publicBaseUrl => "public-base-url".toList
  | noProgress => "no-progress".toList
  | verbose => "verbose".toList
  | quiet => "quiet".toList
  | help => "help".toList
  | version => "version".toList

/-- The letter of the flag, which is written after one dash. -/
def letter? : Flag → Option Char
  | outputDirectory => some 'o'
  | verbose => some 'v'
  | quiet => some 'q'
  | help => some 'h'
  | version => some 'V'
  | _ => none

/-- The environment variable that stands in for the flag. -/
def environmentName? : Flag → Option Text
  | batch => some "MD2PDF_BATCH".toList
  | program => some "MD2PDF_PANDOC".toList
  | pdfEngine => some "MD2PDF_PDF_ENGINE".toList
  | template => some "MD2PDF_TEMPLATE".toList
  | scratchDirectory => some "MD2PDF_SCRATCH_DIR".toList
  | cacheRoot => some "MD2PDF_CACHE_ROOT".toList
  | labelPattern => some "MD2PDF_LABEL_PATTERN".toList
  | implicitFigures => some "MD2PDF_IMPLICIT_FIGURES".toList
  | showDebug => some "MD2PDF_SHOW_DEBUG".toList
  | outputDirectory => some "MD2PDF_OUTPUT_DIR".toList
  | baseUrl => some "MD2PDF_BASE_URL".toList
  | endpoint => some "MD2PDF_STORAGE_ENDPOINT".toList
  | bucket => some "BUCKET_NAME".toList
  | region => some "REGION".toList
  | token => some "MD2PDF_STORAGE_TOKEN".toList
  | publicBaseUrl => some "MD2PDF_PUBLIC_BASE_URL".toList
  | noProgress => some "MD2PDF_NO_PROGRESS".toList
  | verbose => some "MD2PDF_VERBOSE".toList
  | quiet => some "MD2PDF_QUIET".toList
  | help | version => none

/-- The flag with a name. -/
def ofName? (name : Text) : Option Flag :=
  all.find? (·.name == name)

/-- The flag with a letter. -/
def ofLetter? (letter : Char) : Option Flag :=
  all.find? (·.letter? == some letter)

/-- What stands for the value of the flag in messages. -/
def valueName (flag : Flag) : Text :=
  flag.name.map fun char => if char = '-' then '_' else char.toUpper

/-- The flag as messages show it. -/
def display (flag : Flag) : Text :=
  "--".toList ++ flag.name ++ if flag.takesValue then " <".toList ++ flag.valueName ++ ['>'] else []

/-- What the flag does, in a few words. -/
def summary : Flag → Text
  | batch => "Treat the payload as a batch (JSON array)".toList
  | program => "pandoc executable [default: pandoc]".toList
  | pdfEngine => "TeX engine for PDF output [default: xelatex]".toList
  | template => "LaTeX template applied to every output".toList
  | scratchDirectory => "Directory for scratch artifacts (default: system temp dir)".toList
  | cacheRoot => "Root for the engine's HOME, font cache and TeX var tree".toList
  | labelPattern => "Section marker regex with one capture group for the label".toList
  | implicitFigures => "Turn lone images into captioned figures".toList
  | showDebug => "Prefix diagnostics with the raw values used to compute them".toList
  | outputDirectory => "Copy artifacts into this directory [default: md2pdf-out]".toList
  | baseUrl => "Base URL reported for artifacts in --output-dir".toList
  | endpoint => "S3-compatible endpoint; enables uploads".toList
  | bucket => "Bucket for uploads".toList
  | region => "Bucket region [default: us-east-1]".toList
  | token => "Bearer token sent with uploads".toList
  | publicBaseUrl => "Base of the URLs returned for uploads".toList
  | noProgress => "Disable the progress spinner".toList
  | verbose => "Enable debug logs".toList
  | quiet => "Suppress all output except errors and the response".toList
  | help => "Print help".toList
  | version => "Print version".toList

end Flag

end CommandLine

end Typeset
