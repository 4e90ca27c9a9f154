import ProviderAws.Go.Runtime
import ProviderAws.Sns.Subscription
import ProviderAws.Sns.Diff
import ProviderAws.Sns.LateInitialize
import ProviderAws.Sns.Reconciler
import ProviderAws.ApiGatewayV2.Conversions
import ProviderAws.Sns.Intent
