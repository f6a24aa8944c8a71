/-
  `urllib.parse.urlsplit` and the properties of what it returns.

  Nothing of a URL is checked here but brackets that do not match and, in an authority with brackets
  or with characters that are not ASCII, what the host library's tables say of them (`Urllib`).  A
  port is only looked at when it is asked for.
-/
import FireviewerOrchestrator.Contracts.Python

set_option linter.unusedVariables false

namespace FireviewerOrchestrator

/-- What the URL functions leave to the Unicode tables and to `ipaddress`. -/
structure Urllib where
  /-- `str.lower`. -/
  lower : List Char → List Char
  /-- Whether `_check_bracketed_netloc` passes on an authority with both brackets. -/
  bracketsValid : List Char → Bool
  /-- Whether `_checknetloc` passes on an authority that is not ASCII. -/
  normalizationSafe : List Char → Bool
  /-- `repr` of a text. -/
  repr : String → String

/-- The tables of a host that knows the ASCII letters and no address in brackets. -/
def Urllib.ascii : Urllib where
  lower cs := cs.map Char.toLower
  bracketsValid _ := false
  normalizationSafe _ := false
  repr text := "'" ++ text ++ "'"

namespace Url

/-! ## Partitions -/

/-- `text.partition(c)`: what is before the first `c`, and what is behind it if there is one. -/
def partition (c : Char) : List Char → List Char × Option (List Char)
  | [] => ([], none)
  | d :: ds => if d = c then ([], some ds) else
      let (before, behind) := partition c ds
      (d :: before, behind)

/-- `text.rpartition(c)`: what is before the last `c` if there is one, and what is behind it. -/
def rpartition (c : Char) (text : List Char) : Option (List Char) × List Char :=
  let (behind, before) := partition c text.reverse
  (before.map List.reverse, behind.reverse)

/-- The first `c` is where the text is cut. -/
theorem partition_spec (c : Char) (text : List Char) :
    c ∉ (partition c text).1 ∧
      (∀ behind ∈ (partition c text).2, text = (partition c text).1 ++ c :: behind) := by
  induction text with
  | nil =>
    refine ⟨List.not_mem_nil, ?_⟩
    rintro behind ⟨⟩
  | cons d ds ih =>
    rw [partition]
    by_cases hd : d = c
    · rw [if_pos hd]
      refine ⟨List.not_mem_nil, ?_⟩
      rintro behind ⟨⟩
      rw [hd, List.nil_append]
    · rw [if_neg hd]
      refine ⟨?_, fun behind hbehind => ?_⟩
      · rw [List.mem_cons, not_or]
        exact ⟨fun heq => hd heq.symm, ih.1⟩
      · rw [List.cons_append, ← ih.2 behind hbehind]

/-- The last `c` is where the text is cut. -/
theorem rpartition_spec {c : Char} {text before behind : List Char}
    (h : rpartition c text = (some before, behind)) : text = before ++ c :: behind ∧ c ∉ behind := by
  obtain ⟨hfree, hcut⟩ := partition_spec c text.reverse
  obtain ⟨hbefore, rfl⟩ := Prod.mk.inj h
  obtain ⟨before', hbefore', rfl⟩ := Option.map_eq_some_iff.mp hbefore
  have htext := congrArg List.reverse (hcut before' hbefore')
  refine ⟨?_, by rwa [List.mem_reverse]⟩
  simpa only [List.reverse_reverse, List.reverse_append, List.reverse_cons, List.append_assoc,
    List.singleton_append] using htext

/-! ## `urlsplit` -/

structure SplitResult where
  scheme : List Char
  netloc : List Char
  path : List Char
  query : List Char
  fragment : List Char
  deriving DecidableEq

/-- The control characters and the space at the beginning of a URL are dropped, and tabs and line ends
    everywhere. -/
def cleaned (url : List Char) : List Char :=
  (url.dropWhile fun c => c.toNat ≤ 32).filter fun c => c ≠ '\t' ∧ c ≠ '\r' ∧ c ≠ '\n'

/-- `scheme_chars`. -/
def isSchemeChar (c : Char) : Bool := c.isAlphanum || c == '+' || c == '-' || c == '.'

/-- The scheme, in lower case, and what is behind its colon. -/
def splitScheme (url : List Char) : List Char × List Char :=
  match partition ':' url with
  | (c :: cs, some behind) =>
      if c.isAlpha && (c :: cs).all isSchemeChar then ((c :: cs).map Char.toLower, behind) else ([], url)
  | _ => ([], url)

/-- The authority behind `//`, up to the first of `/?#`. -/
def splitNetloc : List Char → List Char × List Char
  | '/' :: '/' :: url => url.span fun c => c ≠ '/' ∧ c ≠ '?' ∧ c ≠ '#'
  | url => ([], url)

/-- The checks of an authority. -/
def checkNetloc (lib : Urllib) (netloc : List Char) : Except PyExc Unit :=
  if (decide ('[' ∈ netloc)) != (decide (']' ∈ netloc)) then .error (.valueError "Invalid IPv6 URL")
  else if '[' ∈ netloc ∧ lib.bracketsValid netloc = false then .error (.valueError "Invalid IPv6 URL")
  else if netloc.any (fun c => decide (128 ≤ c.toNat)) ∧ lib.normalizationSafe netloc = false then
    .error (.valueError "netloc contains invalid characters under NFKC normalization")
  else .ok ()

/-- `urlsplit(url)`. -/
def urlsplit (lib : Urllib) (url : List Char) : Except PyExc SplitResult := do
  let (scheme, rest) := splitScheme (cleaned url)
  let (netloc, rest) := splitNetloc rest
  checkNetloc lib netloc
  let (rest, fragment) := partition '#' rest
  let (path, query) := partition '?' rest
  pure
    { scheme := scheme
      netloc := netloc
      path := path
      query := query.getD []
      fragment := fragment.getD [] }

/-! ## The properties of a split URL -/

namespace SplitResult

/-- `_userinfo`: everything before the last `@`. -/
def userinfo (parsed : SplitResult) : Option (List Char) := (rpartition '@' parsed.netloc).1

/-- `username`. -/
def username (parsed : SplitResult) : Option (List Char) :=
  parsed.userinfo.map fun info => (partition ':' info).1

/-- `password`. -/
def password (parsed : SplitResult) : Option (List Char) :=
  parsed.userinfo.bind fun info => (partition ':' info).2

/-- `_hostinfo`: the host, and the port's text unless it is empty. -/
def hostinfo (parsed : SplitResult) : List Char × Option (List Char) :=
  let info := (rpartition '@' parsed.netloc).2
  let (host, port) := match partition '[' info with
    | (_, some bracketed) =>
        let (host, behind) := partition ']' bracketed
        (host, (partition ':' (behind.getD [])).2)
    | (_, none) => partition ':' info
  (host, port.filter (!·.isEmpty))

/-- `hostname`: in lower case, up to the zone of a scoped address. -/
def hostname (lib : Urllib) (parsed : SplitResult) : Option (List Char) :=
  match parsed.hostinfo.1 with
  | [] => none
  | host => match partition '%' host with
    | (name, some zone) => some (lib.lower name ++ '%' :: zone)
    | (name, none) => some (lib.lower name)

/-- `port`: the port's number.  Another text, or a number that is no port, raises. -/
def port (lib : Urllib) (parsed : SplitResult) : Except PyExc (Option Nat) :=
  match parsed.hostinfo.2 with
  | none => .ok none
  | some text =>
      if text.all Char.isDigit then
        let number := text.foldl (fun n c => 10 * n + (c.toNat - '0'.toNat)) 0
        if number ≤ 65535 then .ok (some number) else .error (.valueError "Port out of range 0-65535")
      else .error (.valueError ("Port could not be cast to integer value as " ++ lib.repr (String.ofList text)))

/-- The port is the default one of HTTPS, or not given: `port in {None, 443}`. -/
def isDefaultPort : Option Nat → Bool
  | none => true
  | some number => number = 443

end SplitResult

/-- `path.removeprefix("/")`. -/
def withoutSlash : List Char → List Char
  | '/' :: path => path
  | path => path

example : (urlsplit .ascii " HTTPS://User@Media.Example:443/a/b.jpg?x#y".toList).toOption =
    some { scheme := "https".toList, netloc := "User@Media.Example:443".toList, path := "/a/b.jpg".toList,
           query := "x".toList, fragment := "y".toList } := by decide

end Url

end FireviewerOrchestrator
