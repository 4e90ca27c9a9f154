import ProviderAws.Go.Runtime

/-!
# API Gateway v2: the authorizer hooks and the API mapping conversions

Two files of `pkg/controller/apigatewayv2`. The controllers both belong to are generated; only
these parts of them are among the sources:

* the hand-written hooks of the `Authorizer` controller: `filterList`, which keeps the
  authorizers named after the resource, and the `postGenerate…Input` hooks, which put the API id,
  the external name and the authorizer id into the requests;
* the generated conversions of the `APIMapping` controller (`zz_conversions.go`):
  `generateAPIMapping` reads the observed mapping out of a `GetApiMappings` response, the
  `generate…Input` functions build the requests around hooks that are not among the sources and
  are parameters here, and `isNotFound` recognises the service's NotFound error.

`meta.GetExternalName(cr)` is the resource's `externalName`. The hooks import `pkg/clients`
as `aws`, which is not among the sources: its `StringValue` dereferences as `stringValue` does,
and its `String`, which returns `nil` for `""`, is the parameter `toStringPtr` of
`postGenerateCreateAuthorizerInput`, as it is of `lateInitializeSubscription`.
-/

namespace ProviderAws
namespace ApiGatewayV2

open Go

/-! ### Authorizer -/

/-- `v1alpha1.AuthorizerParameters`: the field the hooks read. -/
structure AuthorizerParameters where
  apiID : Option String
  deriving DecidableEq, Repr

/-- `v1alpha1.AuthorizerObservation`: the field the hooks read. -/
structure AuthorizerObservation where
  authorizerID : Option String
  deriving DecidableEq, Repr

/-- `v1alpha1.Authorizer`, with its external name. -/
structure Authorizer where
  externalName : String
  forProvider : AuthorizerParameters
  atProvider : AuthorizerObservation
  deriving DecidableEq, Repr

/-- `apigatewayv2.Authorizer`, an item of a `GetAuthorizers` response: the field `filterList`
reads. -/
structure SdkAuthorizer where
  name : Option String
  deriving DecidableEq, Repr

/-- `apigatewayv2.GetAuthorizersOutput`. -/
structure GetAuthorizersOutput where
  items : List SdkAuthorizer
  deriving DecidableEq, Repr

/-- `apigatewayv2.GetAuthorizersInput`: the field the hooks set. -/
structure GetAuthorizersInput where
  apiId : Option String
  deriving DecidableEq, Repr

/-- `apigatewayv2.CreateAuthorizerInput`: the fields the hooks set. -/
structure CreateAuthorizerInput where
  apiId : Option String
  name : Option String
  deriving DecidableEq, Repr

/-- `apigatewayv2.DeleteAuthorizerInput`. -/
structure DeleteAuthorizerInput where
  apiId : Option String
  authorizerId : Option String
  deriving DecidableEq, Repr

/-- `filterList`: the authorizers of the response whose name is the resource's external name,
in the order of the response. -/
def filterList (cr : Authorizer) (list : GetAuthorizersOutput) : GetAuthorizersOutput :=
  ⟨list.items.filter fun authorizer => cr.externalName == stringValue authorizer.name⟩

/-- `postGenerateGetAuthorizersInput`. -/
def postGenerateGetAuthorizersInput (cr : Authorizer) (obj : GetAuthorizersInput) :
    GetAuthorizersInput :=
  { obj with apiId := cr.forProvider.apiID }

/-- `postGenerateCreateAuthorizerInput`, with `aws.String` of `pkg/clients` as `toStringPtr`. -/
def postGenerateCreateAuthorizerInput (toStringPtr : String → Option String) (cr : Authorizer)
    (obj : CreateAuthorizerInput) : CreateAuthorizerInput :=
  { obj with apiId := cr.forProvider.apiID, name := toStringPtr cr.externalName }

/-- `postGenerateDeleteAuthorizerInput`. -/
def postGenerateDeleteAuthorizerInput (cr : Authorizer) (obj : DeleteAuthorizerInput) :
    DeleteAuthorizerInput :=
  { obj with apiId := cr.forProvider.apiID, authorizerId := cr.atProvider.authorizerID }

/-! ### APIMapping -/

/-- `v1alpha1.APIMappingParameters`: the field the conversions read and write. -/
structure APIMappingParameters where
  apiMappingKey : Option String
  deriving DecidableEq, Repr

/-- `v1alpha1.APIMappingObservation`: the fields the conversions read and write. -/
structure APIMappingObservation where
  apiID : Option String
  apiMappingID : Option String
  stage : Option String
  deriving DecidableEq, Repr

/-- `v1alpha1.APIMapping`. -/
structure APIMapping where
  forProvider : APIMappingParameters
  atProvider : APIMappingObservation
  deriving DecidableEq, Repr

/-- The zero value `&svcapitypes.APIMapping{}`. -/
def APIMapping.empty : APIMapping := ⟨⟨none⟩, ⟨none, none, none⟩⟩

/-- `apigatewayv2.ApiMapping`, an item of a `GetApiMappings` response. -/
structure SdkApiMapping where
  apiId : Option String
  apiMappingId : Option String
  apiMappingKey : Option String
  stage : Option String
  deriving DecidableEq, Repr

/-- `apigatewayv2.GetApiMappingsOutput`. -/
structure GetApiMappingsOutput where
  items : List SdkApiMapping
  deriving DecidableEq, Repr

/-- `apigatewayv2.CreateApiMappingInput`: the field the conversion sets. -/
structure CreateApiMappingInput where
  apiMappingKey : Option String
  deriving DecidableEq, Repr

/-- `apigatewayv2.DeleteApiMappingInput`: the field the conversion sets. -/
structure DeleteApiMappingInput where
  apiMappingId : Option String
  deriving DecidableEq, Repr

/-- `if elem.X != nil { cr.X = elem.X }`. -/
def setIfPresent (elem current : Option String) : Option String :=
  match elem with
  | some v => some v
  | none => current

/-- The body of the loop of `GenerateAPIMapping`, run on its first item. -/
def copyApiMapping (elem : SdkApiMapping) (cr : APIMapping) : APIMapping where
  forProvider := ⟨setIfPresent elem.apiMappingKey cr.forProvider.apiMappingKey⟩
  atProvider :=
    ⟨setIfPresent elem.apiId cr.atProvider.apiID,
      setIfPresent elem.apiMappingId cr.atProvider.apiMappingID,
      setIfPresent elem.stage cr.atProvider.stage⟩

/-- `GenerateAPIMapping`: the loop over `resp.Items` copies the first item and `break`s; with no
item the resource is left empty. -/
def generateAPIMapping (resp : GetApiMappingsOutput) : APIMapping :=
  match resp.items with
  | [] => APIMapping.empty
  | elem :: _ => copyApiMapping elem APIMapping.empty

/-- `GenerateCreateApiMappingInput`, around the hooks `pre` and `post`. -/
def generateCreateApiMappingInput
    (pre post : APIMapping → CreateApiMappingInput → CreateApiMappingInput) (cr : APIMapping) :
    CreateApiMappingInput :=
  let res := pre cr ⟨none⟩
  let res := match cr.forProvider.apiMappingKey with
    | some key => { res with apiMappingKey := some key }
    | none => res
  post cr res

/-- `GenerateDeleteApiMappingInput`, around the hooks `pre` and `post`. -/
def generateDeleteApiMappingInput
    (pre post : APIMapping → DeleteApiMappingInput → DeleteApiMappingInput) (cr : APIMapping) :
    DeleteApiMappingInput :=
  let res := pre cr ⟨none⟩
  let res := match cr.atProvider.apiMappingID with
    | some id => { res with apiMappingId := some id }
    | none => res
  post cr res

/-- `IsNotFound`. -/
def isNotFound (err : GoError) : Bool :=
  err.hasCode "NotFoundException"

example : isNotFound .nil = false ∧ isNotFound (.awsErr "NotFoundException" "gone") = true := by
  decide

end ApiGatewayV2
end ProviderAws
