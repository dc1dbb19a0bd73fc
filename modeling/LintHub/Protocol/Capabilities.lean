import LintHub.Json.Shape

set_option autoImplicit false

/-!
# What an editor can do

The first request says what the editor can do: for workspaces, for texts, for notebooks, for its
windows, and in general. The server needs none of it, but all of it must have its shape.
-/

namespace LintHub.Protocol

open Json Shape Member

/-! ## Parts that recur -/

/-- The switch that nearly every ability has. -/
def dynamicMember : Member := maybe "dynamicRegistration" flag

/-- An ability of which nothing but the switch is said. -/
def dynamicAbility : Shape := record "DynamicRegistrationClientCapabilities" [dynamicMember]

/-- The ability to follow a link to a place. -/
def gotoAbility : Shape := record "GotoCapability" [dynamicMember, maybe "linkSupport" flag]

/-- Kinds by their numbers, under a name. -/
def kindSet (name : String) : Shape := record name [maybe "valueSet" (listOf number)]

/-- The kinds of symbols. -/
def symbolKinds : Shape := kindSet "SymbolKindCapability"

/-- The tags that are known; once this was a truth value. -/
def tagSupport : Shape := fun o t =>
  match t with
  | .bool _ => .ok ()
  | t => record "TagSupport" [given "valueSet" (listOf number)] o t

/-- The tags that are known, among the members of an ability. -/
def tagMember : Member := lax "tagSupport" tagSupport

/-- The properties that may be filled in later, under a name. -/
def resolvable (name : String) : Shape := record name [given "properties" (listOf text)]

/-- The forms of text that can be shown. -/
def markupKinds : Shape := listOf (choice ["plaintext", "markdown"])

/-! ## Workspaces -/

/-- What can be done to the files of a workspace as a whole. -/
def workspaceEditAbility : Shape :=
  record "WorkspaceEditClientCapabilities"
    [maybe "documentChanges" flag,
     maybe "resourceOperations" (listOf (choice ["create", "rename", "delete"])),
     maybe "failureHandling" (choice ["abort", "transactional", "textOnlyTransactional", "undo"]),
     maybe "normalizesLineEndings" flag,
     maybe "changeAnnotationSupport"
       (record "ChangeAnnotationWorkspaceEditClientCapabilities" [maybe "groupsOnLabel" flag])]

/-- The search for symbols. -/
def workspaceSymbolAbility : Shape :=
  record "WorkspaceSymbolClientCapabilities"
    [dynamicMember, maybe "symbolKind" symbolKinds, tagMember,
     maybe "resolveSupport" (resolvable "WorkspaceSymbolResolveSupportCapability")]

/-- What is told about files that come and go. -/
def fileOperationsAbility : Shape :=
  record "WorkspaceFileOperationsClientCapabilities"
    [dynamicMember, maybe "didCreate" flag, maybe "willCreate" flag, maybe "didRename" flag,
     maybe "willRename" flag, maybe "didDelete" flag, maybe "willDelete" flag]

/-- An ability to be told that something is out of date. -/
def refreshAbility (name : String) : Shape := record name [maybe "refreshSupport" flag]

/-- What an editor can do for a workspace. -/
def workspaceAbilities : Shape :=
  record "WorkspaceClientCapabilities"
    [maybe "applyEdit" flag,
     maybe "workspaceEdit" workspaceEditAbility,
     maybe "didChangeConfiguration" dynamicAbility,
     maybe "didChangeWatchedFiles"
       (record "DidChangeWatchedFilesClientCapabilities"
         [dynamicMember, maybe "relativePatternSupport" flag]),
     maybe "symbol" workspaceSymbolAbility,
     maybe "executeCommand" dynamicAbility,
     maybe "workspaceFolders" flag,
     maybe "configuration" flag,
     maybe "semanticTokens" (refreshAbility "SemanticTokensWorkspaceClientCapabilities"),
     maybe "codeLens" (refreshAbility "CodeLensWorkspaceClientCapabilities"),
     maybe "fileOperations" fileOperationsAbility,
     maybe "inlineValue" (refreshAbility "InlineValueWorkspaceClientCapabilities"),
     maybe "inlayHint" (refreshAbility "InlayHintWorkspaceClientCapabilities"),
     maybe "diagnostic" (refreshAbility "DiagnosticWorkspaceClientCapabilities")]

/-! ## Texts -/

/-- What is told about open texts. -/
def synchronizationAbility : Shape :=
  record "TextDocumentSyncClientCapabilities"
    [dynamicMember, maybe "willSave" flag, maybe "willSaveWaitUntil" flag, maybe "didSave" flag]

/-- What a proposal to complete a text may hold. -/
def completionItemAbility : Shape :=
  record "CompletionItemCapability"
    [maybe "snippetSupport" flag, maybe "commitCharactersSupport" flag,
     maybe "documentationFormat" markupKinds, maybe "deprecatedSupport" flag,
     maybe "preselectSupport" flag, tagMember, maybe "insertReplaceSupport" flag,
     maybe "resolveSupport" (resolvable "CompletionItemCapabilityResolveSupport"),
     maybe "insertTextModeSupport"
       (record "InsertTextModeSupport" [given "valueSet" (listOf number)]),
     maybe "labelDetailsSupport" flag]

/-- Proposals to complete a text. -/
def completionAbility : Shape :=
  record "CompletionClientCapabilities"
    [dynamicMember, maybe "completionItem" completionItemAbility,
     maybe "completionItemKind" (kindSet "CompletionItemKindCapability"),
     maybe "contextSupport" flag, maybe "insertTextMode" number,
     maybe "completionList"
       (record "CompletionListCapability" [maybe "itemDefaults" (listOf text)])]

/-- What is shown about the arguments of a call. -/
def signatureAbility : Shape :=
  record "SignatureHelpClientCapabilities"
    [dynamicMember,
     maybe "signatureInformation"
       (record "SignatureInformationSettings"
         [maybe "documentationFormat" markupKinds,
          maybe "parameterInformation"
            (record "ParameterInformationSettings" [maybe "labelOffsetSupport" flag]),
          maybe "activeParameterSupport" flag]),
     maybe "contextSupport" flag]

/-- The symbols of a text. -/
def documentSymbolAbility : Shape :=
  record "DocumentSymbolClientCapabilities"
    [dynamicMember, maybe "symbolKind" symbolKinds,
     maybe "hierarchicalDocumentSymbolSupport" flag, tagMember]

/-- Actions on a text. -/
def codeActionAbility : Shape :=
  record "CodeActionClientCapabilities"
    [dynamicMember,
     maybe "codeActionLiteralSupport"
       (record "CodeActionLiteralSupport"
         [given "codeActionKind"
           (record "CodeActionKindLiteralSupport" [given "valueSet" (listOf text)])]),
     maybe "isPreferredSupport" flag, maybe "disabledSupport" flag, maybe "dataSupport" flag,
     maybe "resolveSupport" (resolvable "CodeActionCapabilityResolveSupport"),
     maybe "honorsChangeAnnotations" flag]

/-- New names. -/
def renameAbility : Shape :=
  record "RenameClientCapabilities"
    [dynamicMember, maybe "prepareSupport" flag, maybe "prepareSupportDefaultBehavior" number,
     maybe "honorsChangeAnnotations" flag]

/-- Diagnostics that are sent unasked. -/
def publicationAbility : Shape :=
  record "PublishDiagnosticsClientCapabilities"
    [maybe "relatedInformation" flag, tagMember, maybe "versionSupport" flag,
     maybe "codeDescriptionSupport" flag, maybe "dataSupport" flag]

/-- Parts of a text that can be folded away. -/
def foldingAbility : Shape :=
  record "FoldingRangeClientCapabilities"
    [dynamicMember, maybe "rangeLimit" natural, maybe "lineFoldingOnly" flag,
     maybe "foldingRangeKind"
       (record "FoldingRangeKindCapability"
         [maybe "valueSet" (listOf (choice ["comment", "imports", "region"]))]),
     maybe "foldingRange" (record "FoldingRangeCapability" [maybe "collapsedText" flag])]

/-- The meaning of the words of a text. -/
def semanticTokensAbility : Shape :=
  record "SemanticTokensClientCapabilities"
    [dynamicMember,
     given "requests"
       (record "SemanticTokensClientCapabilitiesRequests"
         [maybe "range" flag,
          maybe "full"
            (anyOf "SemanticTokensFullOptions"
              [flag, record "SemanticTokensFullOptions" [maybe "delta" flag]])]),
     given "tokenTypes" (listOf text), given "tokenModifiers" (listOf text),
     given "formats" (listOf (choice ["relative"])), maybe "overlappingTokenSupport" flag,
     maybe "multilineTokenSupport" flag, maybe "serverCancelSupport" flag,
     maybe "augmentsSyntaxTokens" flag]

/-- What an editor can do for a text. -/
def textAbilities : Shape :=
  record "TextDocumentClientCapabilities"
    [maybe "synchronization" synchronizationAbility,
     maybe "completion" completionAbility,
     maybe "hover"
       (record "HoverClientCapabilities" [dynamicMember, maybe "contentFormat" markupKinds]),
     maybe "signatureHelp" signatureAbility,
     maybe "references" dynamicAbility,
     maybe "documentHighlight" dynamicAbility,
     maybe "documentSymbol" documentSymbolAbility,
     maybe "formatting" dynamicAbility,
     maybe "rangeFormatting" dynamicAbility,
     maybe "onTypeFormatting" dynamicAbility,
     maybe "declaration" gotoAbility,
     maybe "definition" gotoAbility,
     maybe "typeDefinition" gotoAbility,
     maybe "implementation" gotoAbility,
     maybe "codeAction" codeActionAbility,
     maybe "codeLens" dynamicAbility,
     maybe "documentLink"
       (record "DocumentLinkClientCapabilities" [dynamicMember, maybe "tooltipSupport" flag]),
     maybe "colorProvider" dynamicAbility,
     maybe "rename" renameAbility,
     maybe "publishDiagnostics" publicationAbility,
     maybe "foldingRange" foldingAbility,
     maybe "selectionRange" (record "SelectionRangeClientCapabilities" [dynamicMember]),
     maybe "linkedEditingRange" dynamicAbility,
     maybe "callHierarchy" dynamicAbility,
     maybe "semanticTokens" semanticTokensAbility,
     maybe "moniker" dynamicAbility,
     maybe "typeHierarchy" dynamicAbility,
     maybe "inlineValue" dynamicAbility,
     maybe "inlayHint"
       (record "InlayHintClientCapabilities"
         [dynamicMember,
          maybe "resolveSupport" (resolvable "InlayHintResolveClientCapabilities")]),
     maybe "diagnostic"
       (record "DiagnosticClientCapabilities"
         [dynamicMember, maybe "relatedDocumentSupport" flag])]

/-! ## The rest -/

/-- What an editor can do for notebooks. -/
def notebookAbilities : Shape :=
  record "NotebookDocumentClientCapabilities"
    [given "synchronization"
      (record "NotebookDocumentSyncClientCapabilities"
        [dynamicMember, maybe "executionSummarySupport" flag])]

/-- What an editor can do with its windows. -/
def windowAbilities : Shape :=
  record "WindowClientCapabilities"
    [maybe "workDoneProgress" flag,
     maybe "showMessage"
       (record "ShowMessageRequestClientCapabilities"
         [maybe "messageActionItem"
           (record "MessageActionItemCapabilities"
             [maybe "additionalPropertiesSupport" flag])]),
     maybe "showDocument" (record "ShowDocumentClientCapabilities" [given "support" flag])]

/-- What an editor can do in general. -/
def generalAbilities : Shape :=
  record "GeneralClientCapabilities"
    [maybe "regularExpressions"
       (record "RegularExpressionsClientCapabilities" [given "engine" text, maybe "version" text]),
     maybe "markdown"
       (record "MarkdownClientCapabilities"
         [given "parser" text, maybe "version" text, maybe "allowedTags" (listOf text)]),
     maybe "staleRequestSupport"
       (record "StaleRequestSupportClientCapabilities"
         [given "cancel" flag, given "retryOnContentModified" (listOf text)]),
     maybe "positionEncodings" (listOf text)]

/-- What an editor can do. -/
def abilities : Shape :=
  record "ClientCapabilities"
    [maybe "workspace" workspaceAbilities,
     maybe "textDocument" textAbilities,
     maybe "notebookDocument" notebookAbilities,
     maybe "window" windowAbilities,
     maybe "general" generalAbilities,
     maybe "experimental" any]

end LintHub.Protocol
