import TenantSync.Http.Message
import TenantSync.Paging.Cursor
import TenantSync.Secret.Scheme
import TenantSync.Sync.Phase

/-! # What was being attempted

A failure names its cause and, outermost first, the activities that it interrupted. -/

namespace TenantSync

/-- Something the program was doing when it failed. -/
inductive Activity where
  -- reading a tenant
  | fetchingSnapshot (side : Side)
  | listing (k : Kind) (endpoint : String)
  | fetchingPage (k : Kind) (after : Cursor)
  | paging (collection : String) (after : Cursor)
  -- changing a tenant
  | applying (op : Operation) (endpoint : String)
  -- talking to a service
  | readingAddress (text : String)
  | reachingTokenEndpoint (url : Url)
  | readingToken
  | attempting (url : Url) (attempts : Nat)
  | sending (method : Http.Method) (url : Url)
  | readingPage (collection : String) (url : Url)
  | readingCreated (url : Url)
  -- resolving endpoints and secrets
  | checkingAddress (side : Side)
  | resolvingStoredSecret (side : Side)
  | resolvingSecret (scheme : Secret.Scheme)
  | readingVariable (name : String)
  | decodingSecret
  | decodingSecretText
  | readingMountedSecret (name path : String)
  | checkingSecret
  | askingSecret
  -- keeping saved contexts
  | creatingDirectory (path : String)
  | openingStore (path : String)
  | applyingSchema
  | listingContexts
  | readingContext (name : String)
  | savingContext (name : String)
  | deletingContext (name : String)
  | readingSetting (key : String)
  | writingSetting (key : String)
  | deletingSetting (key : String)
  /-- An activity that a caller describes in its own words. -/
  | described (text : String)
  deriving DecidableEq

/-- The wording of an activity. -/
def Activity.message : Activity → String
  | fetchingSnapshot side => s!"Fetching {side} snapshot failed"
  | listing k endpoint => s!"Failed to list {k.plural} from {endpoint}"
  | fetchingPage k cursor => s!"Failed to fetch {k.singular} page after cursor {cursor}"
  | paging collection cursor => s!"Paging through {collection} stopped after cursor {cursor}"
  | applying .create endpoint => s!"Insertion phase failed on {endpoint}"
  | applying .delete endpoint => s!"Deletion phase failed on {endpoint}"
  | readingAddress text => s!"Invalid tenant URL: {text}"
  | reachingTokenEndpoint url => s!"Failed to reach token endpoint {url}"
  | readingToken => "Failed to parse token response"
  | attempting url attempts => s!"GET {url} failed after {attempts} attempts"
  | sending method url => s!"{method} {url} failed"
  | readingPage collection url => s!"Failed to parse {collection} page from {url}"
  | readingCreated url => s!"Failed to parse response from POST {url}"
  | checkingAddress side => s!"Invalid {side} URL"
  | resolvingStoredSecret side => s!"Failed to resolve the stored {side} client secret"
  | resolvingSecret scheme => s!"Failed to resolve {scheme} secret"
  | readingVariable name => s!"Can't load secret from environment variable {name}"
  | decodingSecret => "Dev secret is not valid base64"
  | decodingSecretText => "Dev secret is not valid UTF-8"
  | readingMountedSecret name path => s!"Failed to read kubernetes secret {name} at {path}"
  | checkingSecret => "Invalid client secret reference"
  | askingSecret => "Failed to read client secret"
  | creatingDirectory path => s!"Failed to create config directory {path}"
  | openingStore path => s!"Failed to open config database {path}"
  | applyingSchema => "Failed to apply configuration schema"
  | listingContexts => "Failed to list contexts"
  | readingContext name => s!"Failed to get context {name}"
  | savingContext name => s!"Failed to save context {name}"
  | deletingContext name => s!"Failed to delete context {name}"
  | readingSetting key => s!"Failed to read setting {key}"
  | writingSetting key => s!"Failed to write setting {key}"
  | deletingSetting key => s!"Failed to delete setting {key}"
  | described text => text

end TenantSync
