import AmazonSimilarSearch.Foundation.Words

/-!
# Repository paths

What `sensitive_paths.py`, `policy.py` and `review_packet.py` say of a path: its
parts as `PurePosixPath` sees them, the globs that allow, deny or protect it, and
the names that must never cross a review boundary. A glob is a list of tokens;
each token matches the rest of the pattern at every place it can end.
-/
namespace AmazonSimilarSearch.Review
open Foundation

/-! ## Parts -/

/-- The root of an absolute path; exactly two slashes are a root of their own. -/
def pathRoot : List Char → List String
  | '/' :: '/' :: '/' :: _ => ["/"]
  | '/' :: '/' :: _ => ["//"]
  | '/' :: _ => ["/"]
  | _ => []

/-- `PurePosixPath(path).parts` -/
def pathParts (path : String) : List String :=
  pathRoot path.toList ++
    (((splitAt '/' path.toList).map String.ofList).filter fun part => part ≠ "" && part ≠ ".")

/-- `_safe_repo_path` of `policy.py` -/
def safeRepoPath (path : String) : Bool :=
  if path = "" || ['/', '\\'].any (path.toList.head? = some ·) || path.toList.contains '\\' then false
  else if (pathParts path).any fun part => ["", ".."].contains part then false
  else !path.toList.any fun c => c.toNat < 32

/-! ## Globs -/

inductive GlobToken where
  /-- `(?:.*/)?` -/
  | directories
  /-- `.*` -/
  | anything
  /-- `[^/]*` -/
  | segment
  /-- `[^/]` -/
  | one
  | literal (c : Char)
  deriving DecidableEq, Repr

/-- The tokens of `_glob_regex(pattern)`. -/
def globTokens : List Char → List GlobToken
  | [] => []
  | '*' :: '*' :: '/' :: cs => .directories :: globTokens cs
  | '*' :: '*' :: cs => .anything :: globTokens cs
  | '*' :: cs => .segment :: globTokens cs
  | '?' :: cs => .one :: globTokens cs
  | c :: cs => .literal c :: globTokens cs

attribute [grind =] globTokens

/-- `rest` matches after some characters that all satisfy `p`. -/
def matchesAfter (p : Char → Bool) (rest : List Char → Bool) : List Char → Bool
  | [] => rest []
  | c :: cs => rest (c :: cs) || (p c && matchesAfter p rest cs)

/-- `rest` matches after `.*/`. -/
def matchesAfterSlash (rest : List Char → Bool) : List Char → Bool
  | [] => false
  | c :: cs => (c = '/' && rest cs) || (c ≠ '\n' && matchesAfterSlash rest cs)

def GlobToken.matchThen (rest : List Char → Bool) : GlobToken → List Char → Bool
  | .directories, cs => rest cs || matchesAfterSlash rest cs
  | .anything, cs => matchesAfter (· ≠ '\n') rest cs
  | .segment, cs => matchesAfter (· ≠ '/') rest cs
  | .one, cs => match cs with
    | [] => false
    | c :: cs => c ≠ '/' && rest cs
  | .literal d, cs => match cs with
    | [] => false
    | c :: cs => c = d && rest cs

/-- `fullmatch` of the tokens. -/
def globMatches (tokens : List GlobToken) : List Char → Bool :=
  tokens.foldr (fun token rest => token.matchThen rest) List.isEmpty

/-- `_matches(path, patterns)`, with case -/
def matchesGlob (path : String) (patterns : List String) : Bool :=
  patterns.any fun pattern => globMatches (globTokens pattern.toList) path.toList

/-- `_matches(path, patterns, case_sensitive=False)` -/
def matchesFolded (path : String) (patterns : List String) : Bool :=
  matchesGlob (casefold path) (patterns.map casefold)

theorem globTokens_of_plain {cs : List Char} (h : ∀ c ∈ cs, c ≠ '*' ∧ c ≠ '?') :
    globTokens cs = cs.map .literal := by
  fun_induction globTokens cs with
  | case1 => rfl
  | case2 cs ih => exact absurd rfl (h '*' (by simp)).1
  | case3 cs hcs ih => exact absurd rfl (h '*' (by simp)).1
  | case4 cs hcs hcs' ih => exact absurd rfl (h '*' (by simp)).1
  | case5 cs ih => exact absurd rfl (h '?' (by simp)).2
  | case6 c cs _ _ _ _ ih => rw [ih fun d hd => h d (by simp [hd]), List.map_cons]

theorem globMatches_literals (ds cs : List Char) :
    globMatches (ds.map .literal) cs = true ↔ cs = ds := by
  induction ds generalizing cs with
  | nil => simp [globMatches]
  | cons d ds ih =>
      cases cs with
      | nil => simp [globMatches, GlobToken.matchThen]
      | cons c cs =>
          have ih := ih cs
          simp only [globMatches] at ih
          simp only [globMatches, List.map_cons, List.foldr_cons, GlobToken.matchThen,
            Bool.and_eq_true, decide_eq_true_eq, ih, List.cons.injEq]

/-- A pattern without wildcards matches only itself. -/
theorem globMatches_of_plain {pattern cs : List Char} (h : ∀ c ∈ pattern, c ≠ '*' ∧ c ≠ '?') :
    globMatches (globTokens pattern) cs = true ↔ cs = pattern := by
  rw [globTokens_of_plain h, globMatches_literals]

example : matchesGlob "src/a/b.py" ["src/**/*.py"] = true ∧
    matchesGlob "src/a/b.py" ["src/*.py"] = false := by decide +kernel

/-! ## Sensitive paths -/

def credentialBasenames : List String := [".envrc", ".authinfo", ".authinfo.gpg",
  ".git-credentials", ".gitconfig", ".netrc", ".npmrc", ".pypirc", ".yarnrc", ".yarnrc.yml",
  "_netrc", "application_default_credentials.json", "auth.json", "credentials",
  "credentials.json", "credentials.toml", "id_dsa", "id_ecdsa", "id_ed25519", "id_rsa",
  "service-account.json", "service_account.json", "secrets.json", "secrets.toml", "tokens.json"]

def credentialDirectories : List String := [".aws", ".azure", ".gnupg", ".kube", ".ssh"]

def credentialSuffixes : List (List String) := [[".config", "gcloud"], [".config", "gh"],
  [".config", "glab-cli"], [".config", "hub"], [".config", "openai"],
  [".config", "pypoetry", "auth.toml"], [".config", "rclone", "rclone.conf"],
  [".docker", "config.json"]]

/-- `_contains_sequence` -/
def containsSequence (parts sequence : List String) : Bool :=
  parts.tails.any fun rest => sequence.isPrefixOf rest

/-- `sensitive_path_reason` -/
def sensitivePathReason (path : String) : Option String :=
  let parts := (pathParts path).map casefold
  if parts.any fun part => part = ".env" || part.startsWith ".env." || part = ".envrc" then
    some "sensitive environment path"
  else if containsSequence parts [".streamlit", "secrets.toml"] then
    some "sensitive Streamlit secrets path"
  else if parts.any credentialDirectories.contains then some "credential path"
  else if parts.getLast?.any credentialBasenames.contains then some "credential path"
  else if credentialSuffixes.any (containsSequence parts) then some "credential path"
  else if parts.contains "cache" || parts.contains ".cache" then some "sensitive cache path"
  else if parts.contains ".git" then some "Git metadata"
  else none

/-- `PROTECTED_PATTERNS` of `policy.py` -/
def protectedPatterns : List String :=
  [".streamlit/secrets.toml", "**/.streamlit/secrets.toml", ".git/**", "cache/**"]

/-- `_is_protected_path` of `policy.py` -/
def isProtectedPath (path : String) : Bool :=
  (sensitivePathReason path).isSome || matchesFolded path protectedPatterns

theorem casefold_protectedPatterns : protectedPatterns.map casefold = protectedPatterns := by
  simp only [protectedPatterns, List.map_cons, List.map_nil, List.cons.injEq, and_true]
  and_intros <;> exact casefold_of_lower (by decide) (by decide)

/-- The patterns are written in lower case. -/
theorem isProtectedPath_of_folded {path : String} (h : casefold path = path)
    (hreason : sensitivePathReason path = none)
    (hglob : matchesGlob path protectedPatterns = false) : isProtectedPath path = false := by
  rw [isProtectedPath, hreason, matchesFolded, casefold_protectedPatterns, h, hglob]
  rfl

end AmazonSimilarSearch.Review
