import Sidereon.Data.Transport

/-!
# Publication status

`publication_status` asks the listings of an archive, newest directory first, for the newest
published issue of a product. A directory that is not posted, or that is listed without the product,
leads to the older one; one that cannot be read ends the query.
-/

namespace Sidereon.Data

open Foundation

/-- What `fetch_listing_body` gives. -/
inductive FetchedListing where
  | ok (body : Binary)
  | notPosted (status : Int)
  | error (reason : Reason)
  | failed (reason : Binary)
  deriving DecidableEq, Repr

/-- Why a directory is unreachable: the transport, the caller's fetcher, or a body or a product line
that the core refuses. -/
inductive Unreachable where
  | transport (reason : Reason)
  | fetcher (reason : Binary)
  | core (reason : Binary)
  deriving DecidableEq, Repr

/-- What `publication_status` returns. -/
inductive PublicationStatus (Issue : Type) where
  | published (issue : Issue) (listingUrl : Binary) (behindNominalMinutes : Int)
  | nothingPublished (urls : List Binary)
  | unreachable (url : Binary) (reason : Unreachable)
  | error (reason : Binary)

/-- The functions of the core on listings: the URLs for a center, a product and a time, the objects
of a body, the newest issue of a product among them, and its age. -/
structure Listings (Objects Issue Time : Type) where
  publicationListingUrls : Binary → Binary → Time → Except Binary (List Binary)
  parseArchiveListing : Binary → Except Binary Objects
  newestPublishedProduct : Binary → Binary → Objects → Except Binary (Option Issue)
  publishedIssueAgeMinutes : Issue → Time → Except Binary Int

variable {Objects Issue Time : Type} (fuel : Nat) (library : Library) (opts : Options)

/-- `fetch_listing_body`, by the fetcher of the options or over the transport. -/
def fetchListingBody (listingFetcher : Bool) (url : Binary) : Action FetchedListing := do
  if listingFetcher then
    match ← call (.fetchListing url) with
    | .listed body => pure (.ok body)
    | .notPosted status => pure (.notPosted status)
    | .failed reason => pure (.failed reason)
    | .raised => .crash .client
  else
    match ← downloadOnce fuel library opts url with
    | .ok body => pure (.ok body)
    | .error (.notFoundOnArchive _) => pure (.notPosted 404)
    | .error (.httpStatus 410 _) => pure (.notPosted 410)
    | .error reason => pure (.error reason)

variable (listings : Listings Objects Issue Time) (center productType : Binary) (now : Time)
  (listingFetcher : Bool)

/-- What `walk_publication_listings` does with the answer of a directory, where `walkBack` goes on
with the older ones. An age that the core refuses is a failed match. -/
def afterListing (url : Binary) (walkBack : Action (PublicationStatus Issue)) :
    FetchedListing → Action (PublicationStatus Issue)
  | .ok body =>
    match listings.parseArchiveListing body with
    | .error reason => pure (.unreachable url (.core reason))
    | .ok objects =>
      match listings.newestPublishedProduct center productType objects with
      | .error reason => pure (.unreachable url (.core reason))
      | .ok none => walkBack
      | .ok (some newest) => do
        let behind ← Program.orCrash .noClause
          (listings.publishedIssueAgeMinutes newest now).toOption
        pure (.published newest url behind)
  | .notPosted _ => walkBack
  | .error reason => pure (.unreachable url (.transport reason))
  | .failed reason => pure (.unreachable url (.fetcher reason))

/-- `walk_publication_listings`. -/
def walkPublicationListings (allUrls : List Binary) :
    List Binary → Action (PublicationStatus Issue)
  | [] => pure (.nothingPublished allUrls)
  | url :: rest => do
    afterListing listings center productType now url (walkPublicationListings allUrls rest)
      (← fetchListingBody fuel library opts listingFetcher url)

/-- `publication_status`, of codes that are normalized. -/
def publicationStatus : Action (PublicationStatus Issue) :=
  match listings.publicationListingUrls center productType now with
  | .error reason => pure (.error reason)
  | .ok urls =>
    walkPublicationListings fuel library opts listings center productType now listingFetcher urls urls

end Sidereon.Data
