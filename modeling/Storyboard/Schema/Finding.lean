import Storyboard.Schema.Field

/-!
# Findings

An issue as hosts exchange it: a dotted path and a message.
-/
namespace Storyboard

structure Finding where
  path : String
  message : String
  deriving DecidableEq, Repr

namespace Finding

def ofIssue (issue : Issue) : Finding := ⟨issue.pathText, issue.problem.message⟩

/-- The finding on one line: its path, if it has one, and its message. -/
def text (f : Finding) : String :=
  if f.path == "" then f.message else f.path ++ ": " ++ f.message

def ofJson : Json → Check Finding :=
  Read.record "ValidationIssue" fun o =>
    Finding.mk <$> Read.required o (.plain "path") Read.text
      <*> Read.required o (.plain "message") Read.text

def dump (mode : Mode) (f : Finding) : Json :=
  assemble mode
    [.always (.plain "path") (.str f.path), .always (.plain "message") (.str f.message)] []

end Finding

end Storyboard
