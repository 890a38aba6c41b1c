import Sentinel.Markdown
import Mathlib.Data.List.Basic

/-!
# Messages

The messages of the bot are trees of texts, with bold, code and link nodes. Rendered as
MarkdownV2, the delimiters of a message are those of its nodes, whatever the texts are.
-/

namespace Sentinel

open Markdown

/-- A child of a node: plain text or a node. -/
inductive MessageNode where
  | plain (s : String)
  | text (body : List MessageNode)
  | bold (body : List MessageNode)
  | code (body : List MessageNode)
  | textLink (body : List MessageNode) (url : String)

namespace MessageNode

/-! ### Rendering -/

mutual

/-- `_render_node`: a node as MarkdownV2. -/
def render (e : EscapeMarkdown) : MessageNode → String
  | plain s => e.text s
  | text body => renderAll e body
  | bold body => "*" ++ renderAll e body ++ "*"
  | code body => "`" ++ renderAll e body ++ "`"
  | textLink body url => "[" ++ renderAll e body ++ "](" ++ e.textLink url ++ ")"

/-- The children of a node as MarkdownV2. -/
def renderAll (e : EscapeMarkdown) : List MessageNode → String
  | [] => ""
  | node :: nodes => node.render e ++ renderAll e nodes

end

/-- Nodes as MarkdownV2. -/
def markdown (e : EscapeMarkdown) (args : List MessageNode) : String :=
  (text args).render e

def nl (x : ℕ) : MessageNode :=
  .plain (String.ofList (List.replicate x '\n'))

def transactionFooter (nodeOperatorLine txLink : String) : MessageNode :=
  .text [nl 2, .plain nodeOperatorLine, nl 1, .textLink [.plain "Transaction"] txLink]

def transactionFooterTxOnly (txLink : String) : MessageNode :=
  .text [nl 2, .textLink [.plain "Transaction"] txLink]

/-- The links to the first and the last block, `none` where there is no block. -/
def blockLinks : List (String × String) → Option (List MessageNode)
  | [] => none
  | [(label, url)] => some [.plain "Block: ", .textLink [.plain label] url]
  | (firstLabel, firstUrl) :: link :: links =>
      let (lastLabel, lastUrl) := (link :: links).getLast (List.cons_ne_nil _ _)
      some [.plain "Blocks: ", .textLink [.plain firstLabel] firstUrl, .plain " ... ",
        .textLink [.plain lastLabel] lastUrl]

def blockFooter (nodeOperatorLine : String) (links : List (String × String)) : Option MessageNode :=
  (blockLinks links).map fun links => .text (nl 2 :: .plain nodeOperatorLine :: nl 1 :: links)

def blockFooterTxOnly (links : List (String × String)) : Option MessageNode :=
  (blockLinks links).map fun links => .text (nl 2 :: links)

/-- The message of a change of the metadata of an operator. -/
def operatorMetadataSet (name description : String) (ownerEditsRestricted : Bool) :
    List MessageNode :=
  [.plain "ℹ️ ", .bold [.plain "Operator metadata changed"], nl 2, .plain "Name: ",
      .code [.plain name], nl 1, .plain "Description: ", .code [.plain description]]
    ++ if ownerEditsRestricted then
        [nl 1, .plain "Owner edits restricted: ", .code [.plain "true"]]
      else []

/-! ### What a tree says -/

mutual

/-- The plain texts of a tree, one after the other. -/
def plainText : MessageNode → String
  | plain s => s
  | text body | bold body | code body | textLink body _ => plainTextAll body

def plainTextAll : List MessageNode → String
  | [] => ""
  | node :: nodes => node.plainText ++ plainTextAll nodes

end

mutual

/-- The delimiters of the nodes of a tree, in its order. -/
def delimiters : MessageNode → List Char
  | plain _ => []
  | text body => delimitersAll body
  | bold body => '*' :: delimitersAll body ++ ['*']
  | code body => '\x60' :: delimitersAll body ++ ['\x60']
  | textLink body _ => '[' :: delimitersAll body ++ [']', '(', ')']

def delimitersAll : List MessageNode → List Char
  | [] => []
  | node :: nodes => node.delimiters ++ delimitersAll nodes

end

mutual

/-- The targets of the links of a tree, in its order. -/
def urls : MessageNode → List String
  | plain _ => []
  | text body | bold body | code body => urlsAll body
  | textLink body url => urlsAll body ++ [url]

def urlsAll : List MessageNode → List String
  | [] => []
  | node :: nodes => node.urls ++ urlsAll nodes

end

mutual

/-- The parts of a tree: its delimiters, the characters of its plain texts, escaped where they
are reserved, and between the delimiters of its links their targets. -/
def parts : MessageNode → List Token
  | plain s => s.toList.map fun c => if c ∈ reserved then .escaped c else .plain c
  | text body => partsAll body
  | bold body => .delimiter '*' :: partsAll body ++ [.delimiter '*']
  | code body => .delimiter '\x60' :: partsAll body ++ [.delimiter '\x60']
  | textLink body url =>
      .delimiter '[' :: partsAll body ++ [.delimiter ']', .delimiter '(',
        .target (escape targetReserved url.toList), .delimiter ')']

def partsAll : List MessageNode → List Token
  | [] => []
  | node :: nodes => node.parts ++ partsAll nodes

end

/-! ### Reading a message -/

variable (e : EscapeMarkdown)

mutual

/-- A rendered node is read as its parts, whatever follows it. -/
theorem scan_render (node : MessageNode) (rest : List Char) :
  scan none ((node.render e).toList ++ rest) = node.parts ++ scan none rest
  := by
  cases node with
  | plain s =>
      rw [render, parts, e.toList_text]
      apply scan_escape
  | text body =>
      rw [render, parts]
      apply scan_renderAll
  | bold body =>
      have htext : "*".toList = ['*'] := rfl
      have hscan : ∀ cs, scan none ('*' :: cs) = .delimiter '*' :: scan none cs := fun _ => rfl
      simp only [render, parts, String.toList_append, htext, List.append_assoc, List.cons_append,
        List.nil_append, hscan, scan_renderAll]
  | code body =>
      have htext : "`".toList = ['\x60'] := rfl
      have hscan : ∀ cs, scan none ('\x60' :: cs) = .delimiter '\x60' :: scan none cs :=
        fun _ => rfl
      simp only [render, parts, String.toList_append, htext, List.append_assoc, List.cons_append,
        List.nil_append, hscan, scan_renderAll]
  | textLink body url =>
      have htexts : "[".toList = ['['] ∧ "](".toList = [']', '('] ∧ ")".toList = [')'] :=
        ⟨rfl, rfl, rfl⟩
      have hopen : ∀ cs, scan none ('[' :: cs) = .delimiter '[' :: scan none cs := fun _ => rfl
      have hclose : ∀ cs, scan none (']' :: '(' :: cs)
          = .delimiter ']' :: .delimiter '(' :: scan (some []) cs := fun _ => rfl
      simp only [render, parts, String.toList_append, htexts, List.append_assoc, List.cons_append,
        List.nil_append, hopen, scan_renderAll, hclose, e.toList_textLink, scan_target]

theorem scan_renderAll (nodes : List MessageNode) (rest : List Char) :
  scan none ((renderAll e nodes).toList ++ rest) = partsAll nodes ++ scan none rest
  := by
  cases nodes with
  | nil => rw [renderAll, partsAll, String.toList_empty, List.nil_append, List.nil_append]
  | cons node nodes =>
      rw [renderAll, partsAll, String.toList_append, List.append_assoc, scan_render,
        scan_renderAll, List.append_assoc]

end

/-- A rendered node is read as its parts. -/
theorem tokens_render (node : MessageNode) :
  tokens (node.render e) = node.parts
  := by
  have h := scan_render e node []
  rw [List.append_nil] at h
  apply h.trans
  rw [scan, List.append_nil]

mutual

/-- The delimiters among the parts are those of the nodes. -/
theorem delimiters_parts (node : MessageNode) :
  node.parts.flatMap Token.delimiters = node.delimiters
  := by
  cases node with
  | plain s =>
      rw [parts, delimiters, List.flatMap_map, List.flatMap_eq_nil_iff]
      intro c _
      split <;> rfl
  | text body => apply delimiters_partsAll
  | bold body | code body | textLink body url =>
      simp [parts, delimiters, Token.delimiters, delimiters_partsAll]

theorem delimiters_partsAll (nodes : List MessageNode) :
  (partsAll nodes).flatMap Token.delimiters = delimitersAll nodes
  := by
  cases nodes with
  | nil => rfl
  | cons node nodes =>
      rw [partsAll, delimitersAll, List.flatMap_append, delimiters_parts, delimiters_partsAll]

end

mutual

/-- The targets among the parts are those of the links. -/
theorem targets_parts (node : MessageNode) :
  node.parts.flatMap Token.targets = node.urls.map String.toList
  := by
  cases node with
  | plain s =>
      rw [parts, urls, List.flatMap_map, List.map_nil, List.flatMap_eq_nil_iff]
      intro c _
      split <;> rfl
  | text body => apply targets_partsAll
  | bold body | code body => simp [parts, urls, Token.targets, targets_partsAll]
  | textLink body url =>
      have hurl : unescape (escape targetReserved url.toList) = url.toList :=
        unescape_escape (by decide) url.toList
      simp [parts, urls, Token.targets, targets_partsAll, hurl]

theorem targets_partsAll (nodes : List MessageNode) :
  (partsAll nodes).flatMap Token.targets = (urlsAll nodes).map String.toList
  := by
  cases nodes with
  | nil => rfl
  | cons node nodes =>
      rw [partsAll, urlsAll, List.flatMap_append, List.map_append, targets_parts,
        targets_partsAll]

end

mutual

/-- The plain text of the parts is that of the tree. -/
theorem content_parts (node : MessageNode) :
  node.parts.flatMap Token.content = node.plainText.toList
  := by
  cases node with
  | plain s =>
      have hcontent : ∀ c, (if c ∈ reserved then Token.escaped c else .plain c).content = [c] := by
        intro c
        split <;> rfl
      simp only [parts, plainText, List.flatMap_map, hcontent, List.flatMap_singleton']
  | text body => apply content_partsAll
  | bold body | code body | textLink body url =>
      simp [parts, plainText, Token.content, content_partsAll]

theorem content_partsAll (nodes : List MessageNode) :
  (partsAll nodes).flatMap Token.content = (plainTextAll nodes).toList
  := by
  cases nodes with
  | nil => rfl
  | cons node nodes =>
      rw [partsAll, plainTextAll, List.flatMap_append, String.toList_append, content_parts,
        content_partsAll]

end

/-- Whatever the texts and the urls of a tree are, its rendering is read as its parts: the
delimiters are those of its nodes, every target of a link is its url and ends at the delimiter
of the link, and the rest is the plain text of the tree. -/
theorem render_is_read_back (node : MessageNode) :
  tokens (node.render e) = node.parts
    ∧ (tokens (node.render e)).flatMap Token.delimiters = node.delimiters
    ∧ (tokens (node.render e)).flatMap Token.targets = node.urls.map String.toList
    ∧ (tokens (node.render e)).flatMap Token.content = node.plainText.toList
  := by
  rw [tokens_render]
  use rfl, delimiters_parts node, targets_parts node, content_parts node

example : markdown .standard [.bold [.plain "a*b\\"], .textLink [.plain "x"] "u)v"]
    = "*a\\*b\\\\*[x](u\\)v)" := by
  decide

/-! ### The messages of the source -/

/-- The name and the description of an operator leave the delimiters of its message as they
are. -/
theorem delimiters_operatorMetadataSet (name description : String) (ownerEditsRestricted : Bool) :
  (tokens (markdown e (operatorMetadataSet name description ownerEditsRestricted))).flatMap
      Token.delimiters
    = if ownerEditsRestricted then "**``````".toList else "**````".toList
  := by
  rw [markdown, tokens_render, delimiters_parts]
  cases ownerEditsRestricted with
  | true => rfl
  | false => rfl

/-- The footer of a transaction links to it, whatever the line about the node operator is. -/
theorem tokens_transactionFooter {nodeOperatorLine txLink : String} {footer : MessageNode}
    (h : footer = transactionFooter nodeOperatorLine txLink
      ∨ footer = transactionFooterTxOnly txLink) :
  (tokens (footer.render e)).flatMap Token.delimiters = "[]()".toList
    ∧ (tokens (footer.render e)).flatMap Token.targets = [txLink.toList]
  := by
  rw [tokens_render, delimiters_parts, targets_parts]
  rcases h with rfl | rfl
  · exact ⟨rfl, rfl⟩
  · exact ⟨rfl, rfl⟩

/-- The first and the last one of some links. -/
def linksAtEnds (links : List (String × String)) : List (String × String) :=
  links.head?.toList ++ links.tail.getLast?.toList

/-- The links to blocks are those to the first and the last one. -/
theorem blockLinks_eq_some {links : List (String × String)} {nodes : List MessageNode}
    (h : blockLinks links = some nodes) :
  delimitersAll nodes = ((linksAtEnds links).flatMap fun _ => "[]()".toList)
    ∧ urlsAll nodes = (linksAtEnds links).map Prod.snd
  := by
  unfold blockLinks at h
  split at h
  next => cases h
  next =>
      cases h
      exact ⟨rfl, rfl⟩
  next =>
      cases h
      rw [linksAtEnds, List.tail_cons, List.getLast?_eq_some_getLast (List.cons_ne_nil _ _)]
      exact ⟨rfl, rfl⟩

/-- The footer of blocks links to the first and the last one, whatever the line about the node
operator is. -/
theorem tokens_blockFooter {nodeOperatorLine : String} {links : List (String × String)}
    {footer : MessageNode} (h : blockFooter nodeOperatorLine links = some footer
      ∨ blockFooterTxOnly links = some footer) :
  (tokens (footer.render e)).flatMap Token.delimiters
      = ((linksAtEnds links).flatMap fun _ => "[]()".toList)
    ∧ (tokens (footer.render e)).flatMap Token.targets
      = (linksAtEnds links).map fun link => link.2.toList
  := by
  have hnodes : ∃ nodes, blockLinks links = some nodes
      ∧ footer.delimiters = delimitersAll nodes ∧ footer.urls = urlsAll nodes := by
    rcases h with h | h
    · obtain ⟨nodes, hlinks, rfl⟩ := Option.map_eq_some_iff.mp h
      exact ⟨nodes, hlinks, rfl, rfl⟩
    · obtain ⟨nodes, hlinks, rfl⟩ := Option.map_eq_some_iff.mp h
      exact ⟨nodes, hlinks, rfl, rfl⟩
  obtain ⟨nodes, hlinks, hdelimiters, hurls⟩ := hnodes
  obtain ⟨hdelimiters', hurls'⟩ := blockLinks_eq_some hlinks
  rw [tokens_render, delimiters_parts, targets_parts, hdelimiters, hdelimiters', hurls, hurls',
    List.map_map]
  exact ⟨rfl, rfl⟩

end MessageNode

end Sentinel
