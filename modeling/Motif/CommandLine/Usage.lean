/-!
# How the program is used

The summary of the options, which comes with every mistake, and the full description.
-/

namespace Motif.CommandLine

/-- A text in front of several lines. The other lines are indented as far as the text reaches. -/
def hang (start : String) : List String → List String
  | [] => [start]
  | line :: lines =>
    (start ++ line) :: lines.map fun l ↦ String.ofList (List.replicate start.length ' ') ++ l

def usage (program : String) : List String :=
  hang ("usage: " ++ program ++ " ")
    ["[-h] [-p PATTERN] [--patterns-file PATTERNS_FILE]",
      "(--text TEXT | --conllu CONLLU) [--model MODEL]",
      "[--max-matches MAX_MATCHES] [--workers WORKERS] [--reflect]",
      "[--export-conllu EXPORT_CONLLU] [-v]"]

/-- The description of the program and its options. -/
def manual (program : String) : List String :=
  usage program ++
    ["",
      "Search dependency graphs for structural patterns.",
      "",
      "options:",
      "  -h, --help            show this help message and exit",
      "  -p PATTERN, --pattern PATTERN",
      "                        Pattern text (repeatable)",
      "  --patterns-file PATTERNS_FILE",
      "                        YAML file with a 'patterns' list of \x7bid, pattern,",
      "                        description\x7d",
      "  --text TEXT           Raw text, parsed with spaCy",
      "  --conllu CONLLU       CoNLL-U file with parsed sentences",
      "  --model MODEL         spaCy model for --text",
      "  --max-matches MAX_MATCHES",
      "                        Cap on matches per pattern and sentence",
      "  --workers WORKERS     Threads used to match sentences",
      "  --reflect             Also run the reflection of every pattern",
      "  --export-conllu EXPORT_CONLLU",
      "                        Write the parsed sentences to this CoNLL-U file",
      "  -v, --verbose         Debug logging"]

end Motif.CommandLine
