import AmazonSimilarSearch.Foundation.Interaction
import AmazonSimilarSearch.Foundation.Lines
import AmazonSimilarSearch.Foundation.Words
import AmazonSimilarSearch.Review.Models
import AmazonSimilarSearch.Review.Paths

/-!
# Git objects

`policy.py` knows the candidate repository only through the Git commands it runs
and the file metadata it reads; each of these is a query. An object is used only
after its content has been hashed to its id again, and the trees of a commit are
walked without recursion, each tree once, up to a limit of entries.
-/
namespace AmazonSimilarSearch.Policy
open Foundation Review

/-! ## Queries -/

/-- What `lstat` shows of an entry. -/
structure FileStat where
  isSymlink : Bool
  isDirectory : Bool
  isRegular : Bool
  hardLinks : ℕ
  owner : ℕ
  mode : ℕ
  size : ℕ
  deriving DecidableEq, Repr

/-- An entry of `os.walk`, by its path below the root of the walk. -/
structure WalkEntry where
  relative : String
  stat : FileStat
  isMount : Bool
  deriving DecidableEq, Repr

/-- What `_reject_git_layout` sees of the `.git` directory. -/
structure GitLayout where
  directory : Option FileStat
  forbiddenMetadata : List Bool
  entries : List WalkEntry
  resolved : String
  owner : ℕ
  deriving Repr

inductive Query where
  /-- `_git(repo, *arguments)` -/
  | git (arguments : List String)
  | gitLayout
  /-- `Path(path).resolve()` -/
  | resolve (path : String)
  /-- `os.walk(repo)` without the top-level `.git` -/
  | walkWorktree
  | lstat (path : String)
  deriving DecidableEq, Repr

inductive InspectionError where
  /-- `GitInspectionError` -/
  | inspection (message : String)
  | unicodeDecode
  | valueError
  | overflowError
  | osError
  | validation (error : ValidationError)
  deriving DecidableEq, Repr

/-- A command that fails or does not end answers with its message. -/
def Answer : Query → Type
  | .git _ => Except String Bytes
  | .gitLayout => GitLayout
  | .resolve _ => Option String
  | .walkWorktree => List WalkEntry
  | .lstat _ => Option FileStat

abbrev Inspection := Interaction Query Answer InspectionError
abbrev Repository := Answering Query Answer
abbrev History := List (Exchange Query Answer)

def maxTrackedFiles : ℕ := 2000
def maxTrackedFileBytes : ℕ := 100000000
def maxTrackedTotalBytes : ℕ := 500000000
def maxWorktreeEntries : ℕ := 20000
def maxGitMetadataEntries : ℕ := 50000

/-- `if not p: raise GitInspectionError(message)` -/
def require (p : Prop) [Decidable p] (message : String) : Except InspectionError Unit :=
  ensure p (.inspection message)

def git (arguments : List String) : Inspection Bytes := do
  let answer ← Interaction.query (Query.git arguments)
  match answer with
  | .ok output => pure output
  | .error message => .raise (.inspection message)

/-! ## Objects -/

/-- A function in the place of `hashlib.sha1(raw).hexdigest()`. -/
abbrev Sha1Function := Bytes → LowerHex 40

section
variable (sha1 : Sha1Function)

/-- `REF_PATTERN` -/
def isReference (text : String) : Bool :=
  match text.toList with
  | [] => false
  | c :: cs => isAlphanumericAscii c && cs.all fun c =>
      isAlphanumericAscii c || ['.', '_', '/', '@', '\x7b', '\x7d', '^', '~', '+', '-'].contains c

/-- `_resolve_commit` -/
def resolveCommit (reference : String) : Inspection (LowerHex 40) := do
  .ofExcept (require (isReference reference = true ∧
    (reference.toList.tails.any fun rest => ['.', '.'].isPrefixOf rest) = false)
    "invalid Git reference")
  let value ← git ["rev-parse", "--verify", reference ++ "^\x7bcommit\x7d"]
  let text ← .ofExcept (required .unicodeDecode (decodeAscii value))
  .ofExcept (required (.inspection "Git did not return a full commit SHA")
    (LowerHex.ofText? 40 (strip text)))

inductive ObjectType where
  | commit
  | tree
  | blob
  deriving DecidableEq, Repr

def ObjectType.name : ObjectType → String
  | commit => "commit"
  | tree => "tree"
  | blob => "blob"

/-- What the id of an object is the hash of. -/
def objectPreimage (objectType : ObjectType) (content : Bytes) : Bytes :=
  encodeUtf8 (objectType.name ++ " " ++ toString content.length ++ "\x00") ++ content

/-- `_verified_object_content` -/
def verifiedObjectContent (objectType : ObjectType) (objectId : String) : Inspection Bytes := do
  .ofExcept (require (matchesLowerHex 40 objectId = true) "Git object id must be a full SHA-1")
  let content ← git ["cat-file", objectType.name, objectId]
  .ofExcept (require ((sha1 (objectPreimage objectType content)).text = objectId)
    ("Git " ++ objectType.name ++ " content does not match its object id"))
  pure content

/-- `raw.split(b"\n\n", 1)`, or nothing where there is no blank line. -/
def splitBlankLine : Bytes → Option (Bytes × Bytes)
  | 10 :: 10 :: rest => some ([], rest)
  | b :: rest => (splitBlankLine rest).map fun parts => (b :: parts.1, parts.2)
  | [] => none

/-- `raw.splitlines()` of bytes -/
def bytesLines : Bytes → List Bytes
  | [] => []
  | 13 :: 10 :: rest => [] :: bytesLines rest
  | b :: rest =>
      if b = 10 ∨ b = 13 then [] :: bytesLines rest
      else match bytesLines rest with
        | [] => [[b]]
        | line :: lines => (b :: line) :: lines

/-- `_commit_tree_id` -/
def commitTreeId (commitContent : Bytes) : Except InspectionError String := do
  let header := ((splitBlankLine commitContent).map Prod.fst).getD commitContent
  let treePrefix := encodeUtf8 "tree "
  let treeHeaders := (bytesLines header).filter fun line => treePrefix.isPrefixOf line
  match treeHeaders with
  | [line] => do
      let treeId ← required (.inspection "Git commit tree id must be ASCII")
        (decodeAscii (line.drop treePrefix.length))
      require (matchesLowerHex 40 treeId = true) "Git commit tree id must be a full SHA-1"
      pure treeId
  | _ => .error (.inspection "Git commit must contain exactly one tree header")

/-- The mode, the name and the object id of the first entry of a tree, and the rest of it. -/
def splitTreeEntry (content : Bytes) : Option (Bytes × Bytes × Bytes × Bytes) :=
  let mode := content.takeWhile (· ≠ 32)
  match content.dropWhile (· ≠ 32) with
  | [] => none
  | _ :: afterMode =>
      let name := afterMode.takeWhile (· ≠ 0)
      match afterMode.dropWhile (· ≠ 0) with
      | [] => none
      | _ :: afterName =>
          if mode = [] ∨ name = [] ∨ afterName.length < 20 then none
          else some (mode, name, afterName.take 20, afterName.drop 20)

def hexDigit (n : ℕ) : Char := Char.ofNat (if n < 10 then 48 + n else 87 + n)

/-- `raw.hex()` -/
def bytesHex (raw : Bytes) : String :=
  String.ofList (raw.flatMap fun b => [hexDigit (b.toNat / 16), hexDigit (b.toNat % 16)])

/-- The entries of one tree: how many there are by now, and the ids of the trees among them. -/
def readTree : ℕ → ℕ → Bytes → Except InspectionError (ℕ × List String)
  | _, count, [] => .ok (count, [])
  | 0, _, _ :: _ => .error (.inspection "Git tree contains a malformed entry")
  | length + 1, count, b :: content => do
      let entry ← required (.inspection "Git tree contains a malformed entry")
        (splitTreeEntry (b :: content))
      let (mode, name, objectId, rest) := entry
      require (47 ∉ name ∧ name ∉ [encodeUtf8 "", encodeUtf8 ".", encodeUtf8 ".."])
        "Git tree contains an unsafe entry name"
      require (count + 1 ≤ maxWorktreeEntries)
        ("candidate Git trees have more than " ++ toString maxWorktreeEntries ++ " entries")
      let (total, trees) ← readTree length (count + 1) rest
      pure (total, if mode ∈ [encodeUtf8 "40000", encodeUtf8 "040000"] then
        bytesHex objectId :: trees else trees)

/-- The loop of `_verify_tree_graph`: the last of the pending trees is read next. Every pass takes
a tree away that an entry has put there, so there are no more passes than entries. -/
def verifyTrees : ℕ → List String → List String → ℕ → Inspection Unit
  | _, [], _, _ => pure ()
  | 0, _ :: _, _, _ => .raise (.inspection "unreachable")
  | passes + 1, treeId :: pending, seen, count =>
      if treeId ∈ seen then verifyTrees passes pending seen count
      else do
        let content ← verifiedObjectContent sha1 .tree treeId
        let (total, trees) ← .ofExcept (readTree content.length count content)
        verifyTrees passes (trees.reverse ++ pending) (treeId :: seen) total

/-- `_verify_tree_graph` -/
def verifyTreeGraph (rootTreeId : String) : Inspection Unit :=
  verifyTrees sha1 (maxWorktreeEntries + 1) [rootTreeId] [] 0

/-- `_verify_commit_and_tree_graph` -/
def verifyCommitAndTreeGraph (commitId : LowerHex 40) : Inspection Unit := do
  let commitContent ← verifiedObjectContent sha1 .commit commitId.text
  let treeId ← .ofExcept (commitTreeId commitContent)
  verifyTreeGraph sha1 treeId

/-! ## The candidate commit -/

structure Identity where
  name : String
  email : String
  timestamp : ℤ
  timezone : String
  deriving DecidableEq, Repr

/-- `-?[0-9]+` -/
def isTimestamp (text : String) : Bool :=
  let digits := match text.toList with
    | '-' :: cs => cs
    | cs => cs
  digits ≠ [] && digits.all isDigitAscii

/-- `[+-](?:0[0-9]|1[0-4])[0-5][0-9]` -/
def isTimezone (text : String) : Bool :=
  match text.toList with
  | [sign, a, b, c, d] =>
      (sign = '+' || sign = '-') &&
        ((a = '0' && isDigitAscii b) || (a = '1' && '0' ≤ b && b ≤ '4')) &&
        ('0' ≤ c && c ≤ '5') && isDigitAscii d
  | _ => false

/-- `text.rsplit(" <", 1)` on reversed characters: what is after and before the last `" <"`. -/
def lastAngle? : List Char → Option (List Char × List Char)
  | '<' :: ' ' :: cs => some ([], cs)
  | c :: cs => (lastAngle? cs).map fun parts => (c :: parts.1, parts.2)
  | [] => none

/-- `_parse_identity` -/
def parseIdentity (value field : String) : Except InspectionError Identity := do
  let malformed := "candidate commit has malformed " ++ field ++ " metadata"
  let (identity, timezone) ← required (.inspection malformed) (pyRpartition? ' ' value)
  let (identity, timestamp) ← required (.inspection malformed) (pyRpartition? ' ' identity)
  require (identity.toList.getLast? = some '>' ∧ (lastAngle? identity.toList.reverse).isSome)
    malformed
  require (isTimestamp timestamp = true ∧ isTimezone timezone = true)
    ("candidate commit has malformed " ++ field ++ " timestamp")
  let (email, name) ← required (.inspection malformed)
    (lastAngle? identity.toList.dropLast.reverse)
  let seconds ← required .valueError (pyInt? timestamp)
  pure ⟨.ofList name.reverse, .ofList email.reverse, seconds, timezone⟩

/-- The headers of a commit, in order. -/
def commitHeaders (lines : List String) : Except InspectionError (List (String × String)) :=
  lines.mapM fun line => do
    require (line.toList.head? ≠ some ' ') "candidate commit contains a multiline metadata header"
    required (.inspection "candidate commit contains malformed metadata") (pyPartition? ' ' line)

/-- `parsed.get(key, [])` -/
def headerValues (headers : List (String × String)) (key : String) : List String :=
  (headers.filter fun header => header.1 = key).map Prod.snd

/-- What the contract of the task says of the candidate commit. -/
def commitViolations (expected : CandidateCommitPolicy) (message : String)
    (author committer : Identity) : List String :=
  (if message ≠ expected.message ++ "\n" then
    ["candidate commit message does not match the task contract"] else []) ++
  (if (author.name, author.email) ≠ (expected.authorName, expected.authorEmail) then
    ["candidate commit author does not match the task contract"] else []) ++
  (if (committer.name, committer.email) ≠ (expected.authorName, expected.authorEmail) then
    ["candidate commit committer does not match the task contract"] else []) ++
  (if (author.timestamp, author.timezone) ≠ (expected.timestamp, expected.timezone) then
    ["candidate commit author timestamp does not match the task contract"] else []) ++
  (if (committer.timestamp, committer.timezone) ≠ (expected.timestamp, expected.timezone) then
    ["candidate commit committer timestamp does not match the task contract"] else [])

/-- `_inspect_candidate_commit` -/
def inspectCandidateCommit (task : TaskSpec) (baseSha headSha : LowerHex 40) :
    Inspection (List String) := do
  let raw ← verifiedObjectContent sha1 .commit headSha.text
  .ofExcept do
    let invalid := InspectionError.inspection "candidate commit metadata must be valid UTF-8"
    let (headerBytes, messageBytes) ← required invalid (splitBlankLine raw)
    let headerText ← required invalid (decodeUtf8 headerBytes)
    let message ← required invalid (decodeUtf8 messageBytes)
    let headers ← commitHeaders (pySplitlines headerText)
    require (headerValues headers "parent" = [baseSha.text])
      "candidate must be a single squash commit whose only parent is the task base"
    require ((∀ header ∈ headers, header.1 ∈ ["tree", "parent", "author", "committer"]) ∧
        ∀ key ∈ ["tree", "parent", "author", "committer"], key ∈ headers.map Prod.fst)
      "candidate commit contains unsupported metadata headers"
    require ((headers.map Prod.fst).Nodup) "candidate commit contains duplicate metadata headers"
    let author ← parseIdentity ((headerValues headers "author").headD "") "author"
    let committer ← parseIdentity ((headerValues headers "committer").headD "") "committer"
    pure (commitViolations task.candidateCommit message author committer)

end
end AmazonSimilarSearch.Policy
