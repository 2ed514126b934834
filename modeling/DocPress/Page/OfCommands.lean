import DocPress.Command
import DocPress.Page

/-! # The pages of a command line

The reference of the commands, and the list of the errors that they report. -/

set_option autoImplicit false

namespace DocPress.Page

def commandSource : String := "cmd/sst/main.go"

def ofCommands (root : Command) : Page where
  title := "CLI"
  description := "Reference doc for the SST CLI."
  source := commandSource
  outputPath := .ofString "reference/cli.mdx"
  sections := root.sections

def ofCommonErrors (errors : List CommonError) : Page where
  title := "Common Errors"
  description := "A list of CLI error messages and how to fix them."
  source := commandSource
  outputPath := .ofString "common-errors.mdx"
  sections := CommonError.sections errors

end DocPress.Page
