import Userscript.Script.Basic

/-!
Content security policies. A policy that restricts scripts would block those that are injected, so each
injection adds a source that lets it in: its nonce, or the download address of a linked script.

A policy is a list of directives, each a name with sources. Names are compared without regard to the
case of ASCII letters, and of several directives with one name the first counts.
-/

namespace Userscript

structure Csp.Directive where
  name : Text
  sources : List Text
  deriving DecidableEq, Repr

/-- A content security policy. -/
abbrev Csp := List Csp.Directive

namespace Csp

def scriptSrc : Text := "script-src".toList

def defaultSrc : Text := "default-src".toList

def get? (p : Csp) (name : Text) : Option (List Text) :=
  (p.find? fun d => Text.sameIgnoringCase d.name name).map Directive.sources

/-- Adds the directive in a part of a header. A blank part adds nothing, and neither does a directive
whose name is taken. -/
def add (p : Csp) (part : Text) : Csp :=
  match Text.words part with
  | [] => p
  | name :: sources => if (p.get? name).isSome then p else p ++ [⟨name, sources⟩]

def parse (header : Text) : Csp := (Text.splitOn ';' header).foldl add []

def Directive.render (d : Directive) : Text := Text.join [' '] (d.name :: d.sources)

def render (p : Csp) : Text := Text.join "; ".toList (p.map Directive.render)

def scriptSources (p : Csp) : List Text :=
  ((p.get? scriptSrc).or (p.get? defaultSrc)).getD []

/-- The policy with a directive for scripts. A new one comes last and allows what is allowed without
it. -/
def withScriptSrc (p : Csp) : Csp :=
  if (p.get? scriptSrc).isSome then p else p ++ [⟨scriptSrc, p.scriptSources⟩]

def extendScriptSrc (new : List Text) : Csp → Csp
  | [] => []
  | d :: rest =>
    if Text.sameIgnoringCase d.name scriptSrc then { d with sources := d.sources ++ new } :: rest
    else d :: extendScriptSrc new rest

def allowScripts (p : Csp) (new : List Text) : Csp := extendScriptSrc new p.withScriptSrc

end Csp

/-- A script that has been injected, with the nonce of its element. -/
structure Injection where
  script : Script
  nonce : Option Text
  deriving BEq

namespace Injection

def source? (i : Injection) : Option Text :=
  match i.nonce with
  | some nonce => some ("'nonce-".toList ++ nonce ++ ['\''])
  | none => i.script.downloadUrl

end Injection

/-- A header with which every injection may run. It always has a directive for scripts. -/
def Csp.extendHeader (header : Text) (injections : List Injection) : Text :=
  ((Csp.parse header).allowScripts (injections.filterMap Injection.source?)).render

end Userscript
