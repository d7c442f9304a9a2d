import AutoLoop.Foundation.Table
import AutoLoop.Foundation.Text

/-!
# Records of the knowledge graph

Documents and their chunks, the entities that chunks mention, the relationships between
entities and the communities of a document.  Counters are natural numbers.
-/

namespace AutoLoop.Rag

inductive DocumentStatus where
  | pending
  | chunked
  | graphReady
  deriving DecidableEq, Repr

structure DocumentRecord where
  id : Nat
  title : String
  sourceUri : String
  rawText : String
  status : DocumentStatus
  createdAtMs : UInt64
  chunkCount : Nat
  entityCount : Nat
  relationshipCount : Nat
  deriving DecidableEq, Repr

structure ChunkRecord where
  id : Nat
  documentId : Nat
  ordinal : Nat
  text : String
  tokenCount : Nat
  offsetStart : Nat
  offsetEnd : Nat
  previousChunkId : Option Nat
  nextChunkId : Option Nat
  deriving DecidableEq, Repr

structure EntityRecord where
  id : Nat
  canonicalName : String
  normalizedName : String
  entityType : String
  description : String
  salience : Nat
  mentionCount : Nat
  degree : Nat
  weight : Nat
  firstDocumentId : Nat
  deriving DecidableEq, Repr

structure MentionRecord where
  id : Nat
  documentId : Nat
  chunkId : Nat
  entityId : Nat
  surface : String
  deriving DecidableEq, Repr

structure RelationshipRecord where
  id : Nat
  documentId : Nat
  sourceEntityId : Nat
  targetEntityId : Nat
  relationType : String
  weight : Nat
  confidence : Nat
  evidenceChunkIds : List Nat
  description : String
  deriving DecidableEq, Repr

structure CommunityRecord where
  id : Nat
  documentId : Nat
  label : String
  memberEntityIds : List Nat
  relationshipIds : List Nat
  rank : Nat
  summary : String
  deriving DecidableEq, Repr

structure ExtractedEntity where
  name : String
  entityType : String
  description : String
  deriving DecidableEq, Repr

structure ExtractedRelationship where
  sourceName : String
  targetName : String
  relationType : String
  description : String
  deriving DecidableEq, Repr

structure ExtractedChunkGraph where
  entities : List ExtractedEntity
  relationships : List ExtractedRelationship
  deriving DecidableEq, Repr

inductive QueryMode where
  | localMode
  | globalMode
  deriving DecidableEq, Repr

structure QueryContext where
  documentId : Nat
  mode : QueryMode
  query : String
  matchedChunkIds : List Nat
  matchedEntityIds : List Nat
  matchedRelationshipIds : List Nat
  summary : String
  deriving DecidableEq, Repr

structure DatabaseSnapshot where
  documents : List DocumentRecord
  chunks : List ChunkRecord
  entities : List EntityRecord
  mentions : List MentionRecord
  relationships : List RelationshipRecord
  communities : List CommunityRecord
  deriving DecidableEq, Repr

end AutoLoop.Rag

/-!
## Chunks and heuristic extraction

Texts are cut into overlapping runs of tokens.  Runs of capitalised tokens of a sentence
are its entities, and neighbouring ones are related by the hint that the sentence holds.
-/

namespace AutoLoop.Rag

open Text

/-! ## Text -/

/-- `char::to_lowercase`, as far as ASCII letters and digits come out of it: beside the
ASCII letters, the Kelvin sign and the dotted capital I have one. -/
def lowercaseAscii (char : Char) : Char :=
  if char.toNat = 0x212A then 'k' else if char.toNat = 0x130 then 'i' else char.toLower

def normalizeKey (value : String) : String :=
  String.ofList ((value.toList.map lowercaseAscii).filter Char.isAlphanum)

/-- `str::split_whitespace`. -/
def splitWhitespace (text : String) : List String :=
  ((text.toList.splitOnP isWhitespace).filter (· ≠ [])).map String.ofList

/-- `str::ends_with`. -/
def endsWith (text ending : String) : Bool := ending.toList.isSuffixOf text.toList

/-! ## Chunks -/

def chunksFrom (documentId size step : Nat) :
    Nat → Nat → Nat → List String → List ChunkRecord
  | 0, _, _, _ => []
  | fuel + 1, ordinal, cursor, tokens =>
    if tokens = [] then []
    else
      let text := joinWith ' ' (tokens.take size)
      { id := 0
        documentId
        ordinal
        text
        tokenCount := (tokens.take size).length
        offsetStart := cursor
        offsetEnd := cursor + text.utf8ByteSize
        previousChunkId := none
        nextChunkId := none } ::
      chunksFrom documentId size step fuel (ordinal + 1) (cursor + (text.utf8ByteSize + 1))
        (tokens.drop step)

def chunkText (documentId : Nat) (text : String) (chunkSize overlap : Nat) : List ChunkRecord :=
  let tokens := splitWhitespace text
  let safeChunkSize := max chunkSize 48
  let safeOverlap := min overlap (safeChunkSize / 3)
  let step := max (safeChunkSize - safeOverlap) 1
  chunksFrom documentId safeChunkSize step tokens.length 0 0 tokens

/-! ## Entities of a sentence -/

def stopwords : List String :=
  ["A", "An", "And", "As", "At", "By", "For", "From", "In", "Into", "Of", "On", "Or", "The",
    "To", "With"]

def relationHints : List (String × String) :=
  [("founded by", "FOUNDED_BY"), ("founded", "FOUNDED"), ("acquired", "ACQUIRED"),
    ("merged with", "MERGED_WITH"), ("works at", "WORKS_AT"), ("joined", "JOINED"),
    ("located in", "LOCATED_IN"), ("uses", "USES"), ("competes with", "COMPETES_WITH"),
    ("invested in", "INVESTED_IN"), ("partnered with", "PARTNERED_WITH")]

def isSentenceEnd (char : Char) : Bool :=
  char = '.' || char = '!' || char = '?' || char = '\n'

def splitSentences (text : String) : List String :=
  ((text.toList.splitOnP isSentenceEnd).map fun piece => trim (String.ofList piece)).filter
    (· ≠ "")

def inferEntityType (name : String) : String :=
  if ["Inc", "Corp", "Company", "Amazon", "Microsoft", "Neo4j"].any (endsWith name) then
    "Organization"
  else if 2 ≤ (splitWhitespace name).length then "Person"
  else "Concept"

def isEntityToken (token : String) : Bool :=
  if token ∈ stopwords then false
  else (token.toList.head?.any Char.isUpper) || token.toList.all Char.isUpper

/-- The scan of a sentence: the open run of tokens, what was found and the keys seen. -/
structure SentenceScan where
  current : List String
  found : List ExtractedEntity
  seen : List String

def pushEntityCandidate (scan : SentenceScan) : SentenceScan :=
  let candidate := joinWith ' ' scan.current
  let key := normalizeKey candidate
  if key.utf8ByteSize < 3 then scan
  else if key ∈ scan.seen then scan
  else
    { scan with
      seen := key :: scan.seen
      found := scan.found ++
        [{ name := candidate
           entityType := inferEntityType candidate
           description := "Heuristically extracted from text: " ++ candidate }] }

def scanToken (scan : SentenceScan) (token : String) : SentenceScan :=
  if isEntityToken token then { scan with current := scan.current ++ [token] }
  else if scan.current ≠ [] then { pushEntityCandidate scan with current := [] }
  else scan

def extractEntitiesFromSentence (sentence : String) : List ExtractedEntity :=
  let cleaned := String.ofList (sentence.toList.map fun char =>
    if !char.isAlphanum && char != ' ' then ' ' else char)
  let scan := (splitWhitespace cleaned).foldl scanToken ⟨[], [], []⟩
  if scan.current ≠ [] then (pushEntityCandidate scan).found else scan.found

def detectRelationType (sentence : String) : String :=
  let lowered := toAsciiLowercase sentence
  ((relationHints.find? fun hint => contains lowered hint.1).map (·.2)).getD "RELATED_TO"

/-! ## The graph of a chunk -/

def sentenceRelationships (sentence : String) (entities : List ExtractedEntity) :
    List ExtractedRelationship :=
  (entities.zip entities.tail).filterMap fun (left, right) =>
    if normalizeKey left.name ≠ normalizeKey right.name then
      some {
        sourceName := left.name
        targetName := right.name
        relationType := detectRelationType sentence
        description := trim sentence }
    else none

/-- `entry(key).or_insert(entity)`. -/
def orInsert (entities : Table String ExtractedEntity) (entity : ExtractedEntity) :
    Table String ExtractedEntity :=
  match entities.get (normalizeKey entity.name) with
  | some _ => entities
  | none => entities.insert (normalizeKey entity.name) entity

def heuristicExtractChunkGraph (text : String) : ExtractedChunkGraph :=
  let sentences := (splitSentences text).map fun sentence =>
    (sentence, extractEntitiesFromSentence sentence)
  { entities := (((sentences.flatMap (·.2)).foldl orInsert .empty).rows).map (·.2)
    relationships := sentences.flatMap fun (sentence, entities) =>
      sentenceRelationships sentence entities }

end AutoLoop.Rag
