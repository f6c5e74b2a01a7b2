import GoAssist.Registry.Basic

/-!
# The names of Go

The keywords, predeclared types, snippets and the part of the standard library that the registry
knows. In a template a tab stop is a dollar sign, an opening brace, a number and often a default
text, and a closing brace; the braces are written as `\x7b` and `\x7d`.
-/

namespace GoAssist.GoStandard

/-- The keywords. -/
def keywords : List String :=
  ["break", "case", "chan", "const", "continue", "default", "defer", "else", "fallthrough", "for",
   "func", "go", "goto", "if", "import", "interface", "map", "package", "range", "return", "select",
   "struct", "switch", "type", "var"]

/-- The predeclared types. -/
def types : List String :=
  ["bool", "byte", "complex64", "complex128", "error", "float32", "float64", "int", "int8", "int16",
   "int32", "int64", "rune", "string", "uint", "uint8", "uint16", "uint32", "uint64", "uintptr"]

/-- A function. -/
def function (label template signature : String) : Symbol :=
  ⟨label, template, signature, .function⟩

/-- A constant. -/
def constant (label signature : String) : Symbol :=
  ⟨label, label, signature, .constant⟩

/-- A variable. -/
def value (label signature : String) : Symbol :=
  ⟨label, label, signature, .variable⟩

/-- The package `fmt`. -/
def fmtPackage : Package :=
  .ofSymbols "fmt" [
    function "Print" "Print($\x7b1:a\x7d)"
      "func Print(a ...interface\x7b\x7d) (n int, err error)",
    function "Printf" "Printf(\"$\x7b1:%v\x7d\", $\x7b2:a\x7d)"
      "func Printf(format string, a ...interface\x7b\x7d) (n int, err error)",
    function "Println" "Println($\x7b1:a\x7d)"
      "func Println(a ...interface\x7b\x7d) (n int, err error)",
    function "Sprint" "Sprint($\x7b1:a\x7d)" "func Sprint(a ...interface\x7b\x7d) string",
    function "Sprintf" "Sprintf(\"$\x7b1:%v\x7d\", $\x7b2:a\x7d)"
      "func Sprintf(format string, a ...interface\x7b\x7d) string",
    function "Sprintln" "Sprintln($\x7b1:a\x7d)" "func Sprintln(a ...interface\x7b\x7d) string",
    function "Fprint" "Fprint($\x7b1:w\x7d, $\x7b2:a\x7d)"
      "func Fprint(w io.Writer, a ...interface\x7b\x7d) (n int, err error)",
    function "Fprintf" "Fprintf($\x7b1:w\x7d, \"$\x7b2:%v\x7d\", $\x7b3:a\x7d)"
      "func Fprintf(w io.Writer, format string, a ...interface\x7b\x7d) (n int, err error)",
    function "Fprintln" "Fprintln($\x7b1:w\x7d, $\x7b2:a\x7d)"
      "func Fprintln(w io.Writer, a ...interface\x7b\x7d) (n int, err error)",
    function "Scan" "Scan(&$\x7b1:a\x7d)" "func Scan(a ...interface\x7b\x7d) (n int, err error)",
    function "Scanf" "Scanf(\"$\x7b1:%v\x7d\", &$\x7b2:a\x7d)"
      "func Scanf(format string, a ...interface\x7b\x7d) (n int, err error)",
    function "Scanln" "Scanln(&$\x7b1:a\x7d)"
      "func Scanln(a ...interface\x7b\x7d) (n int, err error)",
    function "Errorf" "Errorf(\"$\x7b1:error\x7d: %v\", $\x7b2:err\x7d)"
      "func Errorf(format string, a ...interface\x7b\x7d) error"]

/-- The package `strings`. -/
def stringsPackage : Package :=
  .ofSymbols "strings" [
    function "Contains" "Contains($\x7b1:s\x7d, $\x7b2:substr\x7d)"
      "func Contains(s, substr string) bool",
    function "ContainsAny" "ContainsAny($\x7b1:s\x7d, $\x7b2:chars\x7d)"
      "func ContainsAny(s, chars string) bool",
    function "Count" "Count($\x7b1:s\x7d, $\x7b2:substr\x7d)" "func Count(s, substr string) int",
    function "HasPrefix" "HasPrefix($\x7b1:s\x7d, $\x7b2:prefix\x7d)"
      "func HasPrefix(s, prefix string) bool",
    function "HasSuffix" "HasSuffix($\x7b1:s\x7d, $\x7b2:suffix\x7d)"
      "func HasSuffix(s, suffix string) bool",
    function "Index" "Index($\x7b1:s\x7d, $\x7b2:substr\x7d)" "func Index(s, substr string) int",
    function "Join" "Join($\x7b1:elems\x7d, \"$\x7b2:sep\x7d\")"
      "func Join(elems []string, sep string) string",
    function "Replace" "Replace($\x7b1:s\x7d, \"$\x7b2:old\x7d\", \"$\x7b3:new\x7d\", $\x7b4:-1\x7d)"
      "func Replace(s, old, new string, n int) string",
    function "ReplaceAll" "ReplaceAll($\x7b1:s\x7d, \"$\x7b2:old\x7d\", \"$\x7b3:new\x7d\")"
      "func ReplaceAll(s, old, new string) string",
    function "Split" "Split($\x7b1:s\x7d, \"$\x7b2:sep\x7d\")"
      "func Split(s, sep string) []string",
    function "ToLower" "ToLower($\x7b1:s\x7d)" "func ToLower(s string) string",
    function "ToUpper" "ToUpper($\x7b1:s\x7d)" "func ToUpper(s string) string",
    function "Trim" "Trim($\x7b1:s\x7d, \"$\x7b2:cutset\x7d\")"
      "func Trim(s, cutset string) string",
    function "TrimSpace" "TrimSpace($\x7b1:s\x7d)" "func TrimSpace(s string) string"]

/-- The package `strconv`. -/
def strconvPackage : Package :=
  .ofSymbols "strconv" [
    function "Atoi" "Atoi($\x7b1:s\x7d)" "func Atoi(s string) (int, error)",
    function "Itoa" "Itoa($\x7b1:i\x7d)" "func Itoa(i int) string",
    function "ParseBool" "ParseBool($\x7b1:str\x7d)" "func ParseBool(str string) (bool, error)",
    function "ParseFloat" "ParseFloat($\x7b1:s\x7d, $\x7b2:64\x7d)"
      "func ParseFloat(s string, bitSize int) (float64, error)",
    function "ParseInt" "ParseInt($\x7b1:s\x7d, $\x7b2:10\x7d, $\x7b3:64\x7d)"
      "func ParseInt(s string, base int, bitSize int) (int64, error)",
    function "FormatBool" "FormatBool($\x7b1:b\x7d)" "func FormatBool(b bool) string",
    function "FormatFloat" "FormatFloat($\x7b1:f\x7d, $\x7b2:'f'\x7d, $\x7b3:-1\x7d, $\x7b4:64\x7d)"
      "func FormatFloat(f float64, fmt byte, prec, bitSize int) string",
    function "FormatInt" "FormatInt($\x7b1:i\x7d, $\x7b2:10\x7d)"
      "func FormatInt(i int64, base int) string"]

/-- The package `time`. -/
def timePackage : Package :=
  .ofSymbols "time" [
    function "Now" "Now()" "func Now() Time",
    function "Sleep" "Sleep($\x7b1:1\x7d * time.Second)" "func Sleep(d Duration)",
    function "Since" "Since($\x7b1:t\x7d)" "func Since(t Time) Duration",
    function "Until" "Until($\x7b1:t\x7d)" "func Until(t Time) Duration",
    function "Parse" "Parse(\"$\x7b1:2006-01-02\x7d\", \"$\x7b2:2024-01-01\x7d\")"
      "func Parse(layout, value string) (Time, error)",
    function "NewTicker" "NewTicker($\x7b1:1\x7d * time.Second)"
      "func NewTicker(d Duration) *Ticker",
    function "NewTimer" "NewTimer($\x7b1:1\x7d * time.Second)"
      "func NewTimer(d Duration) *Timer",
    function "After" "After($\x7b1:1\x7d * time.Second)" "func After(d Duration) <-chan Time",
    constant "Second" "const Second Duration = 1000000000",
    constant "Minute" "const Minute = 60 * Second",
    constant "Hour" "const Hour = 60 * Minute"]

/-- The package `math`. -/
def mathPackage : Package :=
  .ofSymbols "math" [
    function "Abs" "Abs($\x7b1:x\x7d)" "func Abs(x float64) float64",
    function "Ceil" "Ceil($\x7b1:x\x7d)" "func Ceil(x float64) float64",
    function "Floor" "Floor($\x7b1:x\x7d)" "func Floor(x float64) float64",
    function "Max" "Max($\x7b1:x\x7d, $\x7b2:y\x7d)" "func Max(x, y float64) float64",
    function "Min" "Min($\x7b1:x\x7d, $\x7b2:y\x7d)" "func Min(x, y float64) float64",
    function "Pow" "Pow($\x7b1:x\x7d, $\x7b2:y\x7d)" "func Pow(x, y float64) float64",
    function "Round" "Round($\x7b1:x\x7d)" "func Round(x float64) float64",
    function "Sqrt" "Sqrt($\x7b1:x\x7d)" "func Sqrt(x float64) float64"]

/-- The package `os`. -/
def osPackage : Package :=
  .ofSymbols "os" [
    function "Exit" "Exit($\x7b1:0\x7d)" "func Exit(code int)",
    function "Getenv" "Getenv(\"$\x7b1:key\x7d\")" "func Getenv(key string) string",
    function "Setenv" "Setenv(\"$\x7b1:key\x7d\", \"$\x7b2:value\x7d\")"
      "func Setenv(key, value string) error",
    function "Open" "Open(\"$\x7b1:name\x7d\")" "func Open(name string) (*File, error)",
    function "Create" "Create(\"$\x7b1:name\x7d\")" "func Create(name string) (*File, error)",
    function "Remove" "Remove(\"$\x7b1:name\x7d\")" "func Remove(name string) error",
    function "Mkdir" "Mkdir(\"$\x7b1:name\x7d\", $\x7b2:0755\x7d)"
      "func Mkdir(name string, perm FileMode) error",
    value "Args" "var Args []string",
    value "Stdout" "var Stdout = NewFile(uintptr(syscall.Stdout), \"/dev/stdout\")",
    value "Stderr" "var Stderr = NewFile(uintptr(syscall.Stderr), \"/dev/stderr\")",
    value "Stdin" "var Stdin = NewFile(uintptr(syscall.Stdin), \"/dev/stdin\")"]

/-- The snippets. -/
def snippets : List Snippet := [
    ⟨"main", "func main() \x7b\n\t$\x7b1\x7d\n\x7d", "Main function"⟩,
    ⟨"for",
      "for $\x7b1:i\x7d := $\x7b2:0\x7d; $\x7b1:i\x7d < $\x7b3:10\x7d; $\x7b1:i\x7d++ \x7b\n\t$\x7b4\x7d\n\x7d",
      "For loop"⟩,
    ⟨"forrange",
      "for $\x7b1:index\x7d, $\x7b2:value\x7d := range $\x7b3:slice\x7d \x7b\n\t$\x7b4\x7d\n\x7d",
      "For range loop"⟩,
    ⟨"if", "if $\x7b1:condition\x7d \x7b\n\t$\x7b2\x7d\n\x7d", "If statement"⟩,
    ⟨"iferr", "if err != nil \x7b\n\t$\x7b1:return err\x7d\n\x7d", "Error check"⟩,
    ⟨"func",
      "func $\x7b1:name\x7d($\x7b2:params\x7d) $\x7b3:returnType\x7d \x7b\n\t$\x7b4\x7d\n\x7d",
      "Function declaration"⟩,
    ⟨"struct",
      "type $\x7b1:Name\x7d struct \x7b\n\t$\x7b2:field\x7d $\x7b3:type\x7d\n\x7d",
      "Struct declaration"⟩,
    ⟨"interface",
      "type $\x7b1:Name\x7d interface \x7b\n\t$\x7b2:Method\x7d() $\x7b3:returnType\x7d\n\x7d",
      "Interface declaration"⟩,
    ⟨"switch",
      "switch $\x7b1:expression\x7d \x7b\ncase $\x7b2:value\x7d:\n\t$\x7b3\x7d\ndefault:\n\t$\x7b4\x7d\n\x7d",
      "Switch statement"⟩,
    ⟨"select",
      "select \x7b\ncase $\x7b1:channel\x7d <- $\x7b2:value\x7d:\n\t$\x7b3\x7d\ndefault:\n\t$\x7b4\x7d\n\x7d",
      "Select statement"⟩,
    ⟨"goroutine", "go func() \x7b\n\t$\x7b1\x7d\n\x7d()", "Goroutine"⟩,
    ⟨"defer", "defer $\x7b1:func()\x7d", "Defer statement"⟩,
    ⟨"make", "make($\x7b1:[]type\x7d, $\x7b2:0\x7d)", "Make slice/map/channel"⟩,
    ⟨"append", "append($\x7b1:slice\x7d, $\x7b2:element\x7d)", "Append to slice"⟩]

end GoAssist.GoStandard

namespace GoAssist

/-- The registry of the names of Go. -/
def Registry.goStandard : Registry :=
  .ofEntries
    [GoStandard.fmtPackage, GoStandard.stringsPackage, GoStandard.strconvPackage,
      GoStandard.timePackage, GoStandard.mathPackage, GoStandard.osPackage]
    GoStandard.keywords GoStandard.types GoStandard.snippets

end GoAssist
