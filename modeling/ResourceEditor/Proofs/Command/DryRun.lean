import ResourceEditor.Proofs.Command.Drafting
/-
This file compares a dry run with the run that sends. The dry run asks what the other one asks
first, and shows the document that the other one sends then.
-/

namespace ResourceEditor

namespace Drafting

variable {world : World} {progress : Progress} {connection : Connection}

/-- The run of a command that only shows its form, in a format. -/
def dryRun (draft : Drafting) (world : World) (progress : Progress) (format : OutputFormat) :
    Outcome × List Request :=
  (draft.command true).observe (world.showing format) progress

/-- The session that a command drafts, if it gets so far, and what it asks for that. -/
def drafted (draft : Drafting) (world : World) (progress : Progress) :
    Except CommandError Session × List Request :=
  let ((result, _), asked) := draft.form.observe world progress []
  (result, asked)

variable {draft : Drafting} {target : Target} {model : Record} {asked : List Request}

section Lab

end Lab

end Drafting

end ResourceEditor
