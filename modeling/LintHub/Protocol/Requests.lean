import LintHub.Protocol.Basic

set_option autoImplicit false

/-!
# Requests that are not served

An editor may ask for much that the server does not do. Such a request is refused for what is wrong
with its parameters, if anything is, and else because it is not served.
-/

namespace LintHub.Protocol

open Json Shape Member

/-! ## Items -/

/-- An item of a hierarchy, under a name. -/
def hierarchyItem (name : String) : Shape :=
  record name
    [given "name" text, given "kind" number, maybe "tags" (listOf number), maybe "detail" text,
     given "uri" uri, given "range" range, given "selectionRange" range, maybe "data" any]

/-- A proposal to complete a text. -/
def completionItem : Shape :=
  record "CompletionItem"
    [given "label" text,
     maybe "labelDetails"
       (record "CompletionItemLabelDetails" [maybe "detail" text, maybe "description" text]),
     maybe "kind" number, maybe "detail" text,
     maybe "documentation" (textOrMarkup "Documentation"), maybe "deprecated" flag,
     maybe "preselect" flag, maybe "sortText" text, maybe "filterText" text,
     maybe "insertText" text, maybe "insertTextFormat" number, maybe "insertTextMode" number,
     maybe "textEdit"
       (anyOf "CompletionTextEdit"
         [textEdit,
          record "InsertReplaceEdit"
            [given "newText" text, given "insert" range, given "replace" range]]),
     maybe "additionalTextEdits" (listOf textEdit), maybe "command" command,
     maybe "commitCharacters" (listOf text), maybe "data" any, maybe "tags" (listOf number)]

/-- A hint inside a text. -/
def inlayHint : Shape :=
  record "InlayHint"
    [given "position" position,
     given "label"
       (anyOf "InlayHintLabel"
         [text,
          listOf (record "InlayHintLabelPart"
            [given "value" text, maybe "tooltip" (textOrMarkup "InlayHintLabelPartTooltip"),
             maybe "location" location, maybe "command" command])]),
     maybe "kind" number, maybe "textEdits" (listOf textEdit),
     maybe "tooltip" (textOrMarkup "InlayHintTooltip"), maybe "paddingLeft" flag,
     maybe "paddingRight" flag, maybe "data" any]

/-- An action on a text. -/
def codeAction : Shape :=
  record "CodeAction"
    [given "title" text, maybe "kind" text, maybe "diagnostics" (listOf diagnostic),
     maybe "edit" workspaceEdit, maybe "command" command, maybe "isPreferred" flag,
     maybe "disabled" (record "CodeActionDisabled" [given "reason" text]), maybe "data" any]

/-- A symbol of a workspace. -/
def workspaceSymbol : Shape :=
  record "WorkspaceSymbol"
    [given "name" text, given "kind" number, maybe "tags" (listOf number),
     maybe "containerName" text,
     given "location"
       (anyOf "OneOf" [location, record "WorkspaceLocation" [given "uri" uri]]),
     maybe "data" any]

/-- What is shown about a call. -/
def signatureHelp : Shape :=
  record "SignatureHelp"
    [given "signatures"
       (listOf (record "SignatureInformation"
         [given "label" text, maybe "documentation" (textOrMarkup "Documentation"),
          maybe "parameters"
            (listOf (record "ParameterInformation"
              [given "label" (anyOf "ParameterLabel" [text, of (decodeExactly 2 decodeNat32)]),
               maybe "documentation" (textOrMarkup "Documentation")])),
          maybe "activeParameter" natural])),
     maybe "activeSignature" natural, maybe "activeParameter" natural]

/-- How a text is to be laid out. -/
def formattingOptions : Shape :=
  spreadMap "FormattingOptions"
    [given "tabSize" natural, given "insertSpaces" flag, maybe "trimTrailingWhitespace" flag,
     maybe "insertFinalNewline" flag, maybe "trimFinalNewlines" flag]
    (anyOf "FormattingProperty" [flag, number, text])

/-! ## Parameters -/

/-- The parameters of a request about the place of the cursor. -/
def atCursor (name : String) (own : List Member) (parts : List (List Member)) : Shape :=
  spread name own (cursorPart :: parts)

/-- The parameters of a request about a text. -/
def aboutText (name : String) (own : List Member) : Shape :=
  spread name (given "textDocument" textName :: own) [progressPart, partialPart]

/-- The parameters of a request to go to a place. -/
def goto : Shape := atCursor "GotoDefinitionParams" [] [progressPart, partialPart]

/-- The parameters of a request about an item of a hierarchy. -/
def fromItem (name itemName : String) : Shape :=
  spread name [given "item" (hierarchyItem itemName)] [progressPart, partialPart]

/-- The files of an operation, by the members of each. -/
def fileOperation (name itemName : String) (members : List String) : Shape :=
  record name
    [given "files" (listOf (record itemName (members.map fun m => given m text)))]

/-- The requests about the place of the cursor, with the shapes of their parameters. -/
def cursorRequests : List (String × Shape) :=
  [("textDocument/declaration", goto),
   ("textDocument/definition", goto),
   ("textDocument/typeDefinition", goto),
   ("textDocument/implementation", goto),
   ("textDocument/references",
     atCursor "ReferenceParams"
       [given "context" (record "ReferenceContext" [given "includeDeclaration" flag])]
       [progressPart, partialPart]),
   ("textDocument/prepareCallHierarchy",
     atCursor "CallHierarchyPrepareParams" [] [progressPart]),
   ("textDocument/prepareTypeHierarchy",
     atCursor "TypeHierarchyPrepareParams" [] [progressPart]),
   ("textDocument/documentHighlight",
     atCursor "DocumentHighlightParams" [] [progressPart, partialPart]),
   ("textDocument/moniker", atCursor "MonikerParams" [] [progressPart, partialPart]),
   ("textDocument/hover", atCursor "HoverParams" [] [progressPart]),
   ("textDocument/linkedEditingRange",
     atCursor "LinkedEditingRangeParams" [] [progressPart]),
   ("textDocument/completion",
     atCursor "CompletionParams"
       [maybe "context"
         (record "CompletionContext"
           [given "triggerKind" number, maybe "triggerCharacter" text])]
       [progressPart, partialPart]),
   ("textDocument/signatureHelp",
     atCursor "SignatureHelpParams"
       [maybe "context"
         (record "SignatureHelpContext"
           [given "triggerKind" number, maybe "triggerCharacter" text,
            given "isRetrigger" flag, maybe "activeSignatureHelp" signatureHelp])]
       [progressPart]),
   ("textDocument/onTypeFormatting",
     atCursor "DocumentOnTypeFormattingParams"
       [given "ch" text, given "options" formattingOptions] []),
   ("textDocument/rename",
     atCursor "RenameParams" [given "newName" text] [progressPart]),
   ("textDocument/prepareRename", record "TextDocumentPositionParams" cursorPart)]

/-- The requests about a text, with the shapes of their parameters. -/
def textRequests : List (String × Shape) :=
  [("textDocument/documentLink", aboutText "DocumentLinkParams" []),
   ("textDocument/codeLens", aboutText "CodeLensParams" []),
   ("textDocument/foldingRange", aboutText "FoldingRangeParams" []),
   ("textDocument/documentSymbol", aboutText "DocumentSymbolParams" []),
   ("textDocument/documentColor", aboutText "DocumentColorParams" []),
   ("textDocument/selectionRange",
     aboutText "SelectionRangeParams" [given "positions" (listOf position)]),
   ("textDocument/semanticTokens/full", aboutText "SemanticTokensParams" []),
   ("textDocument/semanticTokens/full/delta",
     aboutText "SemanticTokensDeltaParams" [given "previousResultId" text]),
   ("textDocument/semanticTokens/range",
     aboutText "SemanticTokensRangeParams" [given "range" range]),
   ("textDocument/inlineValue",
     spread "InlineValueParams"
       [given "textDocument" textName, given "range" range,
        given "context"
          (record "InlineValueContext" [given "frameId" number, given "stoppedLocation" range])]
       [progressPart]),
   ("textDocument/inlayHint",
     spread "InlayHintParams" [given "textDocument" textName, given "range" range]
       [progressPart]),
   ("textDocument/diagnostic",
     aboutText "DocumentDiagnosticParams"
       [maybe "identifier" text, maybe "previousResultId" text]),
   ("textDocument/codeAction",
     aboutText "CodeActionParams"
       [given "range" range,
        given "context"
          (record "CodeActionContext"
            [given "diagnostics" (listOf diagnostic), maybe "only" (listOf text),
             maybe "triggerKind" number])]),
   ("textDocument/colorPresentation",
     aboutText "ColorPresentationParams"
       [given "color"
          (record "Color"
            [given "red" real, given "green" real, given "blue" real, given "alpha" real]),
        given "range" range]),
   ("textDocument/formatting",
     spread "DocumentFormattingParams"
       [given "textDocument" textName, given "options" formattingOptions] [progressPart]),
   ("textDocument/rangeFormatting",
     spread "DocumentRangeFormattingParams"
       [given "textDocument" textName, given "range" range, given "options" formattingOptions]
       [progressPart]),
   ("textDocument/willSaveWaitUntil",
     record "WillSaveTextDocumentParams"
       [given "textDocument" textName, given "reason" number])]

/-- The requests about an item, with the shapes of their parameters. -/
def itemRequests : List (String × Shape) :=
  [("callHierarchy/incomingCalls",
     fromItem "CallHierarchyIncomingCallsParams" "CallHierarchyItem"),
   ("callHierarchy/outgoingCalls",
     fromItem "CallHierarchyOutgoingCallsParams" "CallHierarchyItem"),
   ("typeHierarchy/supertypes", fromItem "TypeHierarchySupertypesParams" "TypeHierarchyItem"),
   ("typeHierarchy/subtypes", fromItem "TypeHierarchySubtypesParams" "TypeHierarchyItem"),
   ("documentLink/resolve",
     record "DocumentLink"
       [given "range" range, maybe "target" uri, maybe "tooltip" text, maybe "data" any]),
   ("codeLens/resolve",
     record "CodeLens" [given "range" range, maybe "command" command, maybe "data" any]),
   ("inlayHint/resolve", inlayHint),
   ("completionItem/resolve", completionItem),
   ("codeAction/resolve", codeAction),
   ("workspaceSymbol/resolve", workspaceSymbol)]

/-- The requests about a workspace, with the shapes of their parameters. -/
def workspaceRequests : List (String × Shape) :=
  [("workspace/diagnostic",
     spread "WorkspaceDiagnosticParams"
       [maybe "identifier" text,
        given "previousResultIds"
          (listOf (record "PreviousResultId" [given "uri" uri, given "value" text]))]
       [progressPart, partialPart]),
   ("workspace/symbol",
     spread "WorkspaceSymbolParams" [given "query" text] [partialPart, progressPart]),
   ("workspace/willCreateFiles",
     fileOperation "CreateFilesParams" "FileCreate" ["uri"]),
   ("workspace/willRenameFiles",
     fileOperation "RenameFilesParams" "FileRename" ["oldUri", "newUri"]),
   ("workspace/willDeleteFiles",
     fileOperation "DeleteFilesParams" "FileDelete" ["uri"]),
   ("workspace/executeCommand",
     spread "ExecuteCommandParams"
       [given "command" text, Member.of "arguments" .never (listOf any)] [progressPart])]

/-- The requests that are known but not served, with the shapes of their parameters. -/
def unservedRequests : List (String × Shape) :=
  cursorRequests ++ textRequests ++ itemRequests ++ workspaceRequests

end LintHub.Protocol
