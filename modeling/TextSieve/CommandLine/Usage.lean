import TextSieve.CommandLine.Arguments

/-! What the program says about itself, and about a command line that it does not carry out. -/

namespace TextSieve.CommandLine

def version : Text := "textsieve 1.0.0\n".toList

def help : Text := "Match plain text against boolean, fuzzy and field-qualified queries

Usage: textsieve [OPTIONS] <COMMAND>

Commands:
  match <QUERY> <TEXT>...  Match a query against texts given on the command line
  filter <QUERY> [FILE]    Print the lines of a file (or of the input) that match a query
  terms <QUERY>            List the literal terms of a query
  explain <QUERY>          Show how a query is read and compiled

Options:
  -v, --verbose                     Show more (repeatable)
  -q, --quiet                       Show less (overrides --verbose)
  -f, --format <human|json>         Output format
      --pretty                      Lay JSON output out on several lines
      --config <FILE>               Options file (JSON); flags override its values
  -h, --help                        Show this text
  -V, --version                     Show the version

Options before or behind the command:
  -d, --delimiter <TEXT>            Literal word delimiter (repeatable)
      --delimiter-pattern <REGEX>   Pattern of a word delimiter (repeatable)
      --case-sensitive              Match case exactly
      --attribute-delimiter <TEXT>  Separator between a field name and its value
      --no-attributes               Read no field names
      --regexp                      Read every term as a pattern

Options of filter:
      --invert                      Select lines that do not match
      --count                       Print only the number of selected lines
      --parallel                    Look at lines side by side
      --fragments                   Show what matched in each line
".toList

namespace UsageError

def message : UsageError → Text
  | unknownArgument => "unexpected argument".toList
  | invalidValue => "invalid or missing value of an option".toList
  | invalidCommand => "unrecognized command".toList
  | missingCommand => "a command is required".toList
  | missingArgument => "a required argument was not given".toList
  | conflict => "an argument cannot be used together with another, or twice".toList
  | tooManyValues => "a value for a flag that takes none".toList
  | help | helpWithoutArguments => CommandLine.help
  | version => CommandLine.version

/-- Whether the answer is what was asked for. -/
def isAnswer : UsageError → Bool
  | help | version => true
  | _ => false

end UsageError

end TextSieve.CommandLine
